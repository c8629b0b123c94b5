import CallMarkup.Proofs.Regex.Naming

/-!
# Reading patterns step by step

What reading does with one part of a pattern, given the switches under which a dot
stands for every character.  A backslash before every character that means something
in the notation makes a text stand for itself: reading an escaped text adds its
characters one by one to what has been read.
-/

namespace CallMarkup.Pattern

/-- The switches under which a dot stands for every character. -/
def spanning : Flags :=
  { dotAll := true }

variable {inGroup : Bool} {steps length count : Nat} {body : Body} {rest : Text}
  {names : List (Option Text)} {c : Char}

theorem bind_apply {α β : Type} (reading : Reading α) (goesOn : α → Reading β)
    (remainder : Remainder) :
    (reading >>= goesOn) remainder =
      (reading remainder).bind fun read => goesOn read.1 read.2 :=
  rfl

theorem get_bind_apply {α : Type} (goesOn : Remainder → Reading α) (remainder : Remainder) :
    (get >>= goesOn) remainder = goesOn remainder remainder :=
  rfl

theorem ofSet_single (c : Char) (unicode : Bool) :
    Regex.ofSet (.single c) unicode = .literal [c] := by
  have only : (CharSet.single c).only? = some c := by
    simp [CharSet.only?, CharSet.single, Char.ofNat_toNat]
  rw [Regex.ofSet, only]

/-- What is read from a character without a meaning of its own. -/
theorem readSingle_plain (plain : isMeta c = false) :
    readSingle ⟨c :: rest, length, spanning, count, names⟩ =
      some (.literal [c], ⟨rest, length, spanning, count, names⟩) := by
  have ne (other : Char) (special : isMeta other = true) : c ≠ other := by
    rintro rfl
    exact Bool.eq_false_iff.mp plain special
  have noEscape := ne '\\' (by decide)
  have noDot := ne '.' (by decide)
  have noStart := ne '^' (by decide)
  have noEnd := ne '$' (by decide)
  have takes : take ⟨c :: rest, length, spanning, count, names⟩ =
      some (c, ⟨rest, length, spanning, count, names⟩) := rfl
  rw [readSingle, get_bind_apply, bind_apply, takes, Option.bind_some]
  simp only
  rw [show foldCase spanning (.single c) = .single c from rfl, ofSet_single]
  rfl

theorem readSingle_escaped (special : isMeta c = true) :
    readSingle ⟨'\\' :: c :: rest, length, spanning, count, names⟩ =
      some (.literal [c], ⟨rest, length, spanning, count, names⟩) := by
  simp only [isMeta, List.mem_cons, List.not_mem_nil, or_false, decide_eq_true_eq] at special
  rcases special with rfl | rfl | rfl | rfl | rfl | rfl | rfl | rfl | rfl | rfl | rfl | rfl |
    rfl | rfl | rfl | rfl | rfl | rfl
  all_goals rfl

/-- A part that is no group, class or repetition. -/
theorem readBody_single {single : Regex} {after : Remainder}
    (starts : c ∉ ['(', ')', '|', '[', '?', '*', '+', '{'])
    (read : readSingle ⟨c :: rest, length, spanning, count, names⟩ = some (single, after)) :
    readBody inGroup (steps + 1) body ⟨c :: rest, length, spanning, count, names⟩ =
      readBody inGroup steps (body.add (.expr ⟨single, 0⟩)) after := by
  have next : peek? ⟨c :: rest, length, spanning, count, names⟩ =
      some (some c, ⟨c :: rest, length, spanning, count, names⟩) := rfl
  have skips : skipBlanks ⟨c :: rest, length, spanning, count, names⟩ =
      some (⟨⟩, ⟨c :: rest, length, spanning, count, names⟩) := rfl
  simp only [List.mem_cons, List.not_mem_nil, or_false, not_or] at starts
  obtain ⟨noOpen, noClose, noBar, noClass, noOption, noStar, noPlus, noBounds⟩ := starts
  rw [readBody, bind_apply, skips, Option.bind_some, bind_apply, next, Option.bind_some]
  simp only [bind_apply, read, Option.bind_some]

theorem readBody_textStart :
    readBody inGroup (steps + 1) body ⟨'^' :: rest, length, spanning, count, names⟩ =
      readBody inGroup steps (body.add (.expr ⟨.assertion .textStart, 0⟩))
        ⟨rest, length, spanning, count, names⟩ :=
  readBody_single (by decide) rfl

theorem readBody_textEnd :
    readBody inGroup (steps + 1) body ⟨'$' :: rest, length, spanning, count, names⟩ =
      readBody inGroup steps (body.add (.expr ⟨.assertion .textEnd, 0⟩))
        ⟨rest, length, spanning, count, names⟩ :=
  readBody_single (by decide) rfl

/-- Switches at the beginning, and the beginning of the text. -/
theorem readBody_spanning :
    readBody inGroup (steps + 1) body
        ⟨'(' :: '?' :: 's' :: ')' :: rest, length, {}, count, names⟩ =
      readBody inGroup steps (body.add .switches) ⟨rest, length, spanning, count, names⟩ := by
  rw [readBody]
  rfl

theorem readBody_grouping :
    readBody inGroup (steps + 1) body ⟨'(' :: '?' :: ':' :: rest, length, spanning, count, names⟩ =
      (readBody true steps {} ⟨rest, length, spanning, count, names⟩).bind fun read =>
        readBody inGroup steps (body.add (.expr ⟨read.1.value, read.1.depth + 1⟩))
          { read.2 with flags := spanning } := by
  rw [readBody]
  rfl

theorem readBody_close :
    readBody true (steps + 1) body ⟨')' :: rest, length, spanning, count, names⟩ =
      some (body.nested, ⟨rest, length, spanning, count, names⟩) := by
  rw [readBody]
  rfl

theorem readBody_end :
    readBody false (steps + 1) body ⟨[], length, spanning, count, names⟩ =
      some (body.nested, ⟨[], length, spanning, count, names⟩) := by
  rw [readBody]
  rfl

theorem accept_of_ne {expected : Char} (other : c ≠ expected) :
    accept [expected] ⟨c :: rest, length, spanning, count, names⟩ =
      some (false, ⟨c :: rest, length, spanning, count, names⟩) := by
  have differs : afterStart? [expected] (c :: rest) = none := by
    rw [afterStart?, if_neg other.symm]
  rw [accept, get_bind_apply]
  simp only [differs]
  rfl

/-- A repetition mark after a part, where no mark of a lazy repetition follows. -/
theorem readRepetition_greedy {inner : Regex} {depth : Nat} {bounds : Bounds} {mark c : Char}
    (noLazy : c ≠ '?') :
    readBody.readRepetition inGroup steps (body.add (.expr ⟨inner, depth⟩)) bounds
        ⟨mark :: c :: rest, length, spanning, count, names⟩ =
      readBody inGroup steps (body.add (.expr ⟨.repetition inner bounds true, depth + 1⟩))
        ⟨c :: rest, length, spanning, count, names⟩ := by
  rw [readBody.readRepetition]
  have greed : readGreed ⟨c :: rest, length, spanning, count, names⟩ =
      some (true, ⟨c :: rest, length, spanning, count, names⟩) := by
    rw [readGreed, bind_apply, accept_of_ne noLazy]
    rfl
  have bumps : bump ⟨mark :: c :: rest, length, spanning, count, names⟩ =
      some (⟨⟩, ⟨c :: rest, length, spanning, count, names⟩) := rfl
  rw [bind_apply, bumps, Option.bind_some, bind_apply, greed]
  rfl

theorem readBody_star {inner : Regex} {depth : Nat} {c : Char} (noLazy : c ≠ '?') :
    readBody inGroup (steps + 1) (body.add (.expr ⟨inner, depth⟩))
        ⟨'*' :: c :: rest, length, spanning, count, names⟩ =
      readBody inGroup steps (body.add (.expr ⟨.repetition inner ⟨0, none⟩ true, depth + 1⟩))
        ⟨c :: rest, length, spanning, count, names⟩ := by
  rw [readBody]
  exact readRepetition_greedy noLazy

theorem readBody_optional {inner : Regex} {depth : Nat} {c : Char} (noLazy : c ≠ '?') :
    readBody inGroup (steps + 1) (body.add (.expr ⟨inner, depth⟩))
        ⟨'?' :: c :: rest, length, spanning, count, names⟩ =
      readBody inGroup steps (body.add (.expr ⟨.repetition inner ⟨0, some 1⟩ true, depth + 1⟩))
        ⟨c :: rest, length, spanning, count, names⟩ := by
  rw [readBody]
  exact readRepetition_greedy noLazy

/-! ## Escaped text -/

/-- A character that stands for itself in a pattern. -/
def escapedChar (c : Char) : Text :=
  if isMeta c then ['\\', c] else [c]

/-- A text that stands for itself in a pattern. -/
def escaped (text : Text) : Text :=
  text.flatMap escapedChar

theorem readBody_escapedChar (c : Char) :
    readBody inGroup (steps + 1) body ⟨escapedChar c ++ rest, length, spanning, count, names⟩ =
      readBody inGroup steps (body.add (.expr ⟨.literal [c], 0⟩))
        ⟨rest, length, spanning, count, names⟩ := by
  cases special : isMeta c with
  | true =>
      rw [escapedChar, if_pos special]
      exact readBody_single (by decide) (readSingle_escaped special)
  | false =>
      rw [escapedChar, special]
      refine readBody_single (fun starts => ?_) (readSingle_plain special)
      simp only [List.mem_cons, List.not_mem_nil, or_false] at starts
      rcases starts with rfl | rfl | rfl | rfl | rfl | rfl | rfl | rfl
      all_goals exact absurd special (by decide)

/-- What has been read with the characters of a text after it. -/
def Body.addText (body : Body) (text : Text) : Body :=
  text.foldl (fun body c => body.add (.expr ⟨.literal [c], 0⟩)) body

theorem readBody_escaped (text : Text) :
    readBody inGroup (steps + text.length) body
        ⟨escaped text ++ rest, length, spanning, count, names⟩ =
      readBody inGroup steps (body.addText text) ⟨rest, length, spanning, count, names⟩ := by
  induction text generalizing body with
  | nil => rfl
  | cons c text ih =>
      rw [escaped, List.flatMap_cons, List.append_assoc, List.length_cons, ← Nat.add_assoc,
        readBody_escapedChar]
      exact ih

end CallMarkup.Pattern
