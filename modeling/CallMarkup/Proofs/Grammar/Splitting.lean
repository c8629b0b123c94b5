import CallMarkup.Proofs.Document.Delimiters

/-!
# Splitting and joining

A text is split at the separators, or at the assignment operators, that are not
escaped.  Splitting, finding the first such character and unescaping look at
escapes in different ways: the first two pass over whatever an escape character
precedes, the last one only over a reserved character.  They agree all the same,
because an escape character is reserved itself and so never the first character
of an escape that only some of them see.  `splitUnescaped_exact` says that
splitting and joining are inverse to each other, and that finding and unescaping
go along with them.
-/

namespace CallMarkup

theorem joinWith_cons {items : List Text} (nonempty : items ≠ []) (between item : Text) :
    joinWith between (item :: items) = item ++ between ++ joinWith between items := by
  cases items with
  | nil => exact absurd rfl nonempty
  | cons next items => rfl

namespace Grammar

variable {grammar : Grammar} {target : Char}

/-- Whether a character stands somewhere in a text after an even run of escape
characters. -/
def HoldsUnescaped (grammar : Grammar) (target : Char) (text : Text) : Prop :=
  ∃ before after, text = before ++ target :: after ∧ grammar.trailingEscapes before % 2 = 0

/-- Texts that can stand between targets: no target in them is bare, and no escape
character at the end of one takes along the target after it. -/
structure Pieces (grammar : Grammar) (target : Char) (pieces : List Text) : Prop where
  nonempty : pieces ≠ []
  not_holdsUnescaped : ∀ piece ∈ pieces, ¬ grammar.HoldsUnescaped target piece
  complete : ∀ piece ∈ pieces.dropLast, grammar.trailingEscapes piece % 2 = 0

/-! ## Bare targets and dangling escapes -/

theorem MadeOf.trailingEscapes_mod_two {plain : Char → Prop} {text : Text}
    (made : grammar.MadeOf plain text) : grammar.trailingEscapes text % 2 = 0 := by
  induction made with
  | nil => rfl
  | @pair next rest _ ih =>
      have parity := trailingEscapes_append_mod_two (grammar.trailingEscapes_pair next) rest
      simpa [ih] using parity
  | @single c rest notEscape _ _ ih =>
      have begins : [c] <+: c :: rest := ⟨rest, rfl⟩
      have parity := trailingEscapes_drop_mod_two (by simpa using notEscape.symm) begins
      simpa [ih] using parity

theorem MadeOf.not_holdsUnescaped (notEscape : target ≠ grammar.escape) {text : Text}
    (made : grammar.MadeOf (· ≠ target) text) : ¬ grammar.HoldsUnescaped target text := by
  rintro ⟨before, after, cut, even⟩
  have odd := made.trailingEscapes_before notEscape cut
  omega

/-- Without a cut a text is made of other characters, but for an escape character
at its end that escapes nothing. -/
theorem madeOf_of_cutUnescaped?_eq_none {text : Text}
    (uncut : grammar.cutUnescaped? target text = none) :
    grammar.MadeOf (· ≠ target) text ∨
      ∃ front, grammar.MadeOf (· ≠ target) front ∧ text = front ++ [grammar.escape] := by
  fun_induction cutUnescaped? grammar target text with
  | case1 => exact .inl .nil
  | case2 c atTarget => simp at uncut
  | case3 c notTarget =>
      by_cases escapes : c = grammar.escape
      · exact .inr ⟨[], .nil, by simp [escapes]⟩
      · exact .inl (.single escapes (fun same => notTarget ⟨escapes, same⟩) .nil)
  | case4 next rest ih =>
      rcases ih (Option.map_eq_none_iff.mp uncut) with made | ⟨front, made, rfl⟩
      · exact .inl (.pair next made)
      · exact .inr ⟨grammar.escape :: next :: front, .pair next made, rfl⟩
  | case5 next rest notEscape => simp at uncut
  | case6 c next rest notEscape notTarget ih =>
      rcases ih (Option.map_eq_none_iff.mp uncut) with made | ⟨front, made, same⟩
      · exact .inl (.single notEscape notTarget made)
      · exact .inr ⟨c :: front, .single notEscape notTarget made, by simp [same]⟩

/-- A text is cut exactly if some target in it is bare. -/
theorem cutUnescaped?_eq_none_iff (notEscape : target ≠ grammar.escape) {text : Text} :
    grammar.cutUnescaped? target text = none ↔ ¬ grammar.HoldsUnescaped target text := by
  constructor
  · intro uncut
    rcases madeOf_of_cutUnescaped?_eq_none uncut with made | ⟨front, made, rfl⟩
    · exact made.not_holdsUnescaped notEscape
    · rintro ⟨before, after, cut, even⟩
      -- The target is not the escape character at the end, so it stands in front of it.
      by_cases atEnd : after = []
      · subst atEnd
        exact notEscape (List.cons.inj (List.append_inj' cut rfl).2).1.symm
      · have inFront : front = before ++ target :: after.dropLast := by
          simpa [List.dropLast_append_of_ne_nil, List.dropLast_cons_of_ne_nil atEnd] using
            congrArg List.dropLast cut
        exact made.not_holdsUnescaped notEscape ⟨before, _, inFront, even⟩
  · intro free
    rw [Option.eq_none_iff_forall_ne_some]
    rintro ⟨before, after⟩ cut
    exact free ⟨before, after, eq_append_of_cutUnescaped? cut,
      (madeOf_of_cutUnescaped? cut).trailingEscapes_mod_two⟩

theorem madeOf_iff (notEscape : target ≠ grammar.escape) {text : Text} :
    grammar.MadeOf (· ≠ target) text ↔
      ¬ grammar.HoldsUnescaped target text ∧ grammar.trailingEscapes text % 2 = 0 := by
  constructor
  · intro made
    exact ⟨made.not_holdsUnescaped notEscape, made.trailingEscapes_mod_two⟩
  · rintro ⟨free, even⟩
    rcases madeOf_of_cutUnescaped?_eq_none ((cutUnescaped?_eq_none_iff notEscape).mpr free) with
      made | ⟨front, made, rfl⟩
    · exact made
    · rw [trailingEscapes_append_mod_two made.trailingEscapes_mod_two] at even
      simp [trailingEscapes] at even

/-- Every text is reached by cutting off what precedes its first bare target, again
and again. -/
theorem cut_induction (grammar : Grammar) (target : Char) {holds : Text → Prop}
    (uncut : ∀ text, grammar.cutUnescaped? target text = none → holds text)
    (cut : ∀ text before after, grammar.cutUnescaped? target text = some (before, after) →
      holds after → holds text) (text : Text) : holds text := by
  induction length : text.length using Nat.strong_induction_on generalizing text with
  | _ bound ih =>
      cases parts : grammar.cutUnescaped? target text with
      | none => exact uncut text parts
      | some parts' =>
          obtain ⟨before, after⟩ := parts'
          have shorter : after.length < bound := by
            rw [← length, eq_append_of_cutUnescaped? parts]
            simp
            omega
          exact cut text before after parts (ih _ shorter after rfl)

/-! ## The pieces of a text -/

theorem joinWith_splitUnescaped (notEscape : target ≠ grammar.escape) (text : Text) :
    joinWith [target] (grammar.splitUnescaped target text) = text := by
  induction text using cut_induction grammar target with
  | uncut text uncut => rw [splitUnescaped_of_cutUnescaped?_eq_none uncut, joinWith]
  | cut text before after cut ih =>
      rw [splitUnescaped_of_cutUnescaped? notEscape cut,
        joinWith_cons (grammar.splitUnescaped_ne_nil target after), ih,
        eq_append_of_cutUnescaped? cut, List.append_assoc, List.singleton_append]

theorem Pieces.cons {piece : Text} {pieces : List Text} (made : grammar.MadeOf (· ≠ target) piece)
    (notEscape : target ≠ grammar.escape) (later : grammar.Pieces target pieces) :
    grammar.Pieces target (piece :: pieces) where
  nonempty := List.cons_ne_nil _ _
  not_holdsUnescaped :=
    List.forall_mem_cons.mpr ⟨made.not_holdsUnescaped notEscape, later.not_holdsUnescaped⟩
  complete := by
    rw [List.dropLast_cons_of_ne_nil later.nonempty]
    exact List.forall_mem_cons.mpr ⟨made.trailingEscapes_mod_two, later.complete⟩

theorem pieces_splitUnescaped (notEscape : target ≠ grammar.escape) (text : Text) :
    grammar.Pieces target (grammar.splitUnescaped target text) := by
  induction text using cut_induction grammar target with
  | uncut text uncut =>
      rw [splitUnescaped_of_cutUnescaped?_eq_none uncut]
      exact ⟨by simp, by simpa using (cutUnescaped?_eq_none_iff notEscape).mp uncut, by simp⟩
  | cut text before after cut ih =>
      rw [splitUnescaped_of_cutUnescaped? notEscape cut]
      exact ih.cons (madeOf_of_cutUnescaped? cut) notEscape

/-- Pieces are found again in the text that they are joined to. -/
theorem splitUnescaped_joinWith (notEscape : target ≠ grammar.escape) {pieces : List Text}
    (arePieces : grammar.Pieces target pieces) :
    grammar.splitUnescaped target (joinWith [target] pieces) = pieces := by
  induction pieces with
  | nil => exact absurd rfl arePieces.nonempty
  | cons piece pieces ih =>
      obtain ⟨-, free, complete⟩ := arePieces
      obtain ⟨freeHere, freeLater⟩ := List.forall_mem_cons.mp free
      by_cases last : pieces = []
      · subst last
        rw [joinWith]
        exact splitUnescaped_of_cutUnescaped?_eq_none
          ((cutUnescaped?_eq_none_iff notEscape).mpr freeHere)
      · rw [List.dropLast_cons_of_ne_nil last] at complete
        obtain ⟨completeHere, completeLater⟩ := List.forall_mem_cons.mp complete
        have made := (madeOf_iff notEscape).mpr ⟨freeHere, completeHere⟩
        rw [joinWith_cons last, List.append_assoc, List.singleton_append,
          splitUnescaped_append made, splitUnescaped_target notEscape,
          ih ⟨last, freeLater, completeLater⟩, List.modifyHead_cons, List.append_nil]

/-! ## Finding and unescaping -/

/-- The first bare target is found at the end of the first piece. -/
theorem findUnescaped?_eq (notEscape : target ≠ grammar.escape) (text : Text) :
    grammar.findUnescaped? target text =
      if 1 < (grammar.splitUnescaped target text).length then
        (grammar.splitUnescaped target text).head?.map byteLength
      else none := by
  unfold findUnescaped?
  cases cut : grammar.cutUnescaped? target text with
  | none => simp [splitUnescaped_of_cutUnescaped?_eq_none cut]
  | some parts =>
      obtain ⟨before, after⟩ := parts
      have more := List.length_pos_iff.mpr (grammar.splitUnescaped_ne_nil target after)
      rw [splitUnescaped_of_cutUnescaped? notEscape cut, if_pos (by simpa using more)]
      rfl

/-- A text without dangling escape is unescaped on its own.  An escape character
before a character that is not reserved stays, and this character is not an escape
character. -/
theorem MadeOf.unescape_append {plain : Char → Prop} {first : Text}
    (made : grammar.MadeOf plain first) (second : Text) :
    grammar.unescape (first ++ second) = grammar.unescape first ++ grammar.unescape second := by
  induction made with
  | nil => rfl
  | @pair next rest _ ih =>
      rw [List.cons_append, List.cons_append]
      cases reserved : grammar.isReserved next with
      | true => rw [unescape_pair reserved, unescape_pair reserved, ih, List.cons_append]
      | false =>
          have notEscape := (isReserved_eq_false_iff.mp reserved).1
          have kept (rest : Text) : grammar.unescape (grammar.escape :: next :: rest) =
              grammar.escape :: next :: grammar.unescape rest := by
            rw [unescape, if_neg (by simp [reserved]), unescape_single notEscape]
          rw [kept, kept, ih, List.cons_append, List.cons_append]
  | single notEscape _ _ ih =>
      rw [List.cons_append, unescape_single notEscape, unescape_single notEscape, ih,
        List.cons_append]

theorem unescape_eq_joinWith (notEscape : target ≠ grammar.escape) (text : Text) :
    grammar.unescape text =
      joinWith [target] ((grammar.splitUnescaped target text).map grammar.unescape) := by
  induction text using cut_induction grammar target with
  | uncut text uncut =>
      rw [splitUnescaped_of_cutUnescaped?_eq_none uncut, List.map_singleton, joinWith]
  | cut text before after cut ih =>
      have more : (grammar.splitUnescaped target after).map grammar.unescape ≠ [] := by
        simpa using grammar.splitUnescaped_ne_nil target after
      rw [splitUnescaped_of_cutUnescaped? notEscape cut, List.map_cons, joinWith_cons more, ← ih,
        eq_append_of_cutUnescaped? cut, (madeOf_of_cutUnescaped? cut).unescape_append,
        unescape_single notEscape, List.append_assoc, List.singleton_append]

/-- Splitting at separators or at assignment operators is the inverse of joining,
for all texts and for all lists of pieces.  The first bare target is at the end of
the first piece, and the pieces can be unescaped one by one. -/
theorem splitUnescaped_exact (grammar : Grammar) {target : Char}
    (isTarget : target = grammar.separator ∨ target = grammar.assignment) :
    (∀ raw,
      joinWith [target] (grammar.splitUnescaped target raw) = raw ∧
      grammar.Pieces target (grammar.splitUnescaped target raw) ∧
      grammar.findUnescaped? target raw =
        (if 1 < (grammar.splitUnescaped target raw).length then
          (grammar.splitUnescaped target raw).head?.map byteLength
        else none) ∧
      grammar.unescape raw =
        joinWith [target] ((grammar.splitUnescaped target raw).map grammar.unescape)) ∧
    ∀ pieces, grammar.Pieces target pieces →
      grammar.splitUnescaped target (joinWith [target] pieces) = pieces := by
  have notEscape : target ≠ grammar.escape := by
    rcases isTarget with rfl | rfl
    · exact grammar.valid.separator_ne_escape
    · exact grammar.valid.assignment_ne_escape
  refine ⟨fun raw => ⟨?_, ?_, ?_, ?_⟩, fun pieces arePieces => ?_⟩
  · exact joinWith_splitUnescaped notEscape raw
  · exact pieces_splitUnescaped notEscape raw
  · exact findUnescaped?_eq notEscape raw
  · exact unescape_eq_joinWith notEscape raw
  · exact splitUnescaped_joinWith notEscape arePieces

/-- The first separator comes after an escaped escape character, the second one is
escaped itself, and the last piece ends in an escape character that escapes nothing. -/
theorem runsOfEscapes_split :
    ('|' = Grammar.default.separator ∨ '|' = Grammar.default.assignment) ∧
      Grammar.default.splitUnescaped '|' "\u00FC\\\\|b\\|\\\\c|d\\".toList =
        ["\u00FC\\\\".toList, "b\\|\\\\c".toList, ['d', '\\']] ∧
      Grammar.default.findUnescaped? '|' "\u00FC\\\\|b\\|\\\\c|d\\".toList = some 4 ∧
      Grammar.default.unescape "\u00FC\\\\|b\\|\\\\c|d\\".toList =
        joinWith ['|'] ["\u00FC\\".toList, "b|\\c".toList, ['d', '\\']] ∧
      Grammar.default.Pieces '|' ["\u00FC\\\\".toList, "b\\|\\\\c".toList, ['d', '\\']] ∧
      Grammar.default.splitUnescaped '|'
          (joinWith ['|'] ["\u00FC\\\\".toList, "b\\|\\\\c".toList, ['d', '\\']]) =
        ["\u00FC\\\\".toList, "b\\|\\\\c".toList, ['d', '\\']] := by
  have isTarget : '|' = Grammar.default.separator ∨ '|' = Grammar.default.assignment := .inl rfl
  obtain ⟨splits, joins⟩ := splitUnescaped_exact Grammar.default isTarget
  have pieces : Grammar.default.splitUnescaped '|' "\u00FC\\\\|b\\|\\\\c|d\\".toList =
      ["\u00FC\\\\".toList, "b\\|\\\\c".toList, ['d', '\\']] := by cbv
  have here := splits "\u00FC\\\\|b\\|\\\\c|d\\".toList
  rw [pieces] at here
  obtain ⟨-, arePieces, found, unescaped⟩ := here
  exact ⟨isTarget, pieces, found, unescaped, arePieces, joins _ arePieces⟩

end Grammar

end CallMarkup
