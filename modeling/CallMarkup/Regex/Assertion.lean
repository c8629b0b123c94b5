import CallMarkup.Text
import CallMarkup.Unicode.Property

/-!
# Positions in a text and conditions on them
-/

namespace CallMarkup

/-- A position in a text. -/
structure Cursor where
  /-- The number of bytes before the position. -/
  offset : Nat
  previous : Option Char
  rest : Text
  deriving DecidableEq

namespace Cursor

def atStart (text : Text) : Cursor :=
  ⟨0, none, text⟩

/-- The position after the next character, if there is one. -/
def next (cursor : Cursor) : Cursor :=
  match cursor.rest with
  | [] => cursor
  | c :: rest => ⟨cursor.offset + c.utf8Size, some c, rest⟩

/-- The position so many characters later, or the end of the text. -/
def advance (cursor : Cursor) : Nat → Cursor
  | 0 => cursor
  | count + 1 => cursor.next.advance count

theorem next_rest (cursor : Cursor) : cursor.next.rest = cursor.rest.tail := by
  rcases cursor with ⟨offset, previous, rest⟩
  cases rest <;> rfl

theorem offset_le_next (cursor : Cursor) : cursor.offset ≤ cursor.next.offset := by
  rcases cursor with ⟨offset, previous, rest⟩
  cases rest <;> simp [next]

theorem advance_rest (cursor : Cursor) (count : Nat) :
    (cursor.advance count).rest = cursor.rest.drop count := by
  induction count generalizing cursor with
  | zero => rfl
  | succ count ih => rw [advance, ih, next_rest, List.drop_tail]

theorem offset_le_advance (cursor : Cursor) (count : Nat) :
    cursor.offset ≤ (cursor.advance count).offset := by
  induction count generalizing cursor with
  | zero => exact Nat.le_refl _
  | succ count ih => exact Nat.le_trans cursor.offset_le_next (ih cursor.next)

def textUpTo (cursor : Cursor) (offset : Nat) : Text :=
  takeBytes (offset - cursor.offset) cursor.rest

end Cursor

/-- Which characters form words. -/
inductive WordRule
  | unicode
  | ascii
  deriving DecidableEq

/-- Whether a rule counts a character as part of a word. -/
def WordRule.admits (rule : WordRule) (c : Char) : Bool :=
  match rule with
  | unicode => Unicode.isWord c
  | ascii => Unicode.isAscii c && Unicode.isWord c

/-- Conditions on a position. -/
inductive Assertion
  | textStart
  | textEnd
  | lineStart
  | lineEnd
  /-- Line starts and ends where a carriage return and a line feed together
  make one line break. -/
  | pairedLineStart
  | pairedLineEnd
  | wordBoundary (rule : WordRule)
  | notWordBoundary (rule : WordRule)
  | wordStart (rule : WordRule)
  | wordEnd (rule : WordRule)
  | wordStartHalf (rule : WordRule)
  | wordEndHalf (rule : WordRule)
  deriving DecidableEq

namespace Assertion

def holds (cursor : Cursor) : Assertion → Bool
  | .textStart => cursor.previous.isNone
  | .textEnd => cursor.rest.isEmpty
  | .lineStart => cursor.previous.all (· == '\n')
  | .lineEnd => cursor.rest.head?.all (· == '\n')
  | .pairedLineStart =>
    cursor.previous.all fun c => c == '\n' || (c == '\r' && cursor.rest.head? != some '\n')
  | .pairedLineEnd =>
    cursor.rest.head?.all fun c => c == '\r' || (c == '\n' && cursor.previous != some '\r')
  | .wordBoundary rule => before rule != after rule
  | .notWordBoundary rule => before rule == after rule
  | .wordStart rule => !before rule && after rule
  | .wordEnd rule => before rule && !after rule
  | .wordStartHalf rule => !before rule
  | .wordEndHalf rule => !after rule
where
  /-- Whether a word character comes before the position. -/
  before (rule : WordRule) : Bool := cursor.previous.any rule.admits
  /-- Whether a word character comes after the position. -/
  after (rule : WordRule) : Bool := cursor.rest.head?.any rule.admits

end Assertion

end CallMarkup
