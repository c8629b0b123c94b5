import CallMarkup.CommandLine.Outcome
import CallMarkup.CommandLine.Walk
import Mathlib.Data.List.TakeWhile

/-!
# Files to read

A walk meets exactly the files to which names lead through directories that can be
listed (`Entry.mem_walk_iff`), and a job reads those of them that have one of the
extensions it lists (`Job.mem_files_iff`).
-/

namespace CallMarkup.CommandLine

/-! ## Walks -/

/-- Where names lead from an entry: to the content of a file.  A walk meets the file
if every directory on the way can be listed. -/
inductive Entry.Leads : Entry → List Text → Bool → Option Text → Prop
  | here (content : Option Text) : Leads (.file content) [] true content
  | within {listable : Bool} {entries : List (Text × Entry)} {name : Text} {entry : Entry}
      {names : List Text} {met : Bool} {content : Option Text}
      (member : (name, entry) ∈ entries) (leads : entry.Leads names met content) :
      Leads (.directory listable entries) (name :: names) (listable && met) content

namespace Entry

theorem mem_walkEach_iff {entries : List (Text × Entry)} {file : TreeFile} :
    file ∈ walkEach entries ↔
      ∃ name entry, (name, entry) ∈ entries ∧ ∃ inner ∈ entry.walk, inner.within name = file := by
  induction entries with
  | nil => simp [walkEach]
  | cons first entries ih =>
      obtain ⟨name, entry⟩ := first
      rw [walkEach, List.mem_append, List.mem_map, ih]
      constructor
      · rintro (⟨inner, member, same⟩ | ⟨name, entry, listed, found⟩)
        · exact ⟨name, entry, List.mem_cons_self, inner, member, same⟩
        · exact ⟨name, entry, List.mem_cons_of_mem _ listed, found⟩
      · rintro ⟨name, entry, listed, found⟩
        rcases List.mem_cons.mp listed with same | later
        · obtain ⟨rfl, rfl⟩ := Prod.mk.inj same
          exact .inl found
        · exact .inr ⟨name, entry, later, found⟩

theorem mem_walk_of_leads {entry : Entry} {names : List Text} {met : Bool}
    {content : Option Text} (leads : entry.Leads names met content) (isMet : met = true) :
    ⟨names, content⟩ ∈ entry.walk := by
  induction leads with
  | here content => simp [walk]
  | @within listable entries name entry names met content member leads ih =>
      obtain ⟨listed, isMet⟩ := Bool.and_eq_true_iff.mp isMet
      rw [walk, if_pos listed]
      exact mem_walkEach_iff.mpr ⟨name, entry, member, _, ih isMet, rfl⟩

/-- A walk meets a file exactly if its names lead to it through directories that can
be listed. -/
theorem mem_walk_iff {entry : Entry} {file : TreeFile} :
    file ∈ entry.walk ↔ entry.Leads file.names true file.content := by
  refine ⟨fun member => ?_, fun leads => mem_walk_of_leads leads rfl⟩
  -- Each name leads one level down, so the induction is on the names and not on the tree.
  obtain ⟨names, content⟩ := file
  induction names generalizing entry with
  | nil =>
      cases entry with
      | file content =>
          obtain ⟨-, rfl⟩ := TreeFile.mk.inj (List.mem_singleton.mp member)
          exact .here _
      | directory listable entries =>
          rw [walk] at member
          split at member
          · obtain ⟨_, _, -, _, -, same⟩ := mem_walkEach_iff.mp member
            cases same
          · cases member
      | other => cases member
  | cons name names ih =>
      cases entry with
      | file content => cases List.mem_singleton.mp member
      | directory listable entries =>
          rw [walk] at member
          split at member
          next listed =>
            obtain ⟨name, entry, listedThere, inner, found, same⟩ := mem_walkEach_iff.mp member
            cases same
            subst listed
            exact .within listedThere (ih found)
          · cases member
      | other => cases member

end Entry

/-! ## Extensions -/

theorem pieces_of_not_mem {separator : Char} {text : Text} (free : separator ∉ text) :
    pieces separator text = [text] := by
  induction text with
  | nil => rfl
  | cons c text ih =>
      have differs : c ≠ separator := (List.ne_of_not_mem_cons free).symm
      rw [pieces, if_neg differs, ih (List.not_mem_of_not_mem_cons free), List.modifyHead_cons]

theorem pieces_append (separator : Char) (before after : Text) :
    pieces separator (before ++ separator :: after) =
      pieces separator before ++ pieces separator after := by
  induction before with
  | nil => simp [pieces]
  | cons c before ih =>
      rw [List.cons_append, pieces, pieces, ih]
      split
      · rfl
      · cases split : pieces separator before with
        | nil => exact absurd split (pieces_ne_nil separator before)
        | cons piece others => rfl

/-- Whether a file name has an extension: what follows its last dot, if anything comes
before this dot. -/
def HasExtension (name ending : Text) : Prop :=
  ∃ stem, stem ≠ [] ∧ name = stem ++ '.' :: ending ∧ '.' ∉ ending

theorem extension?_append {stem ending : Text} (nonempty : stem ≠ []) (last : '.' ∉ ending) :
    extension? (stem ++ '.' :: ending) = some ending := by
  unfold extension?
  rw [pieces_append, pieces_of_not_mem last, List.reverse_append]
  cases split : (pieces '.' stem).reverse with
  | nil => exact absurd (List.reverse_eq_nil_iff.mp split) (pieces_ne_nil '.' stem)
  | cons beginning earlier =>
      have bare : ¬(earlier = [] ∧ beginning = []) := by
        rintro ⟨rfl, rfl⟩
        have single : pieces '.' stem = [[]] := by simpa using congrArg List.reverse split
        have whole := joinWith_pieces '.' stem
        rw [single] at whole
        exact nonempty whole.symm
      simp [bare]

theorem extension?_eq_some_iff {name ending : Text} :
    extension? name = some ending ↔ HasExtension name ending := by
  constructor
  · intro found
    by_cases dotted : '.' ∈ name
    · obtain ⟨after, before, reversed, last⟩ :=
        List.eq_append_cons_of_mem (List.mem_reverse.mpr dotted)
      obtain rfl : name = before.reverse ++ '.' :: after.reverse := by
        simpa using congrArg List.reverse reversed
      by_cases bare : before = []
      · subst bare
        simp [extension?, pieces, pieces_of_not_mem, last] at found
      · rw [extension?_append (by simpa using bare) (by simpa using last)] at found
        obtain rfl := Option.some.inj found
        exact ⟨before.reverse, by simpa using bare, rfl, by simpa using last⟩
    · simp [extension?, pieces_of_not_mem dotted] at found
  · rintro ⟨stem, nonempty, rfl, last⟩
    exact extension?_append nonempty last

theorem dropWhile_dots_eq_iff {wanted ending : Text} (last : '.' ∉ ending) :
    wanted.dropWhile (· = '.') = ending ↔
      ∃ dots, wanted = List.replicate dots '.' ++ ending := by
  constructor
  · rintro rfl
    refine ⟨(wanted.takeWhile (· = '.')).length, ?_⟩
    have onlyDots : wanted.takeWhile (· = '.') =
        List.replicate (wanted.takeWhile (· = '.')).length '.' :=
      List.eq_replicate_of_mem fun c member => by simpa using List.mem_takeWhile_imp member
    rw [← onlyDots, List.takeWhile_append_dropWhile]
  · rintro ⟨dots, rfl⟩
    rw [List.dropWhile_append_of_pos (by simp)]
    cases ending with
    | nil => rfl
    | cons c ending =>
        have differs : c ≠ '.' := fun same => last (by simp [same])
        simp [differs]

/-! ## Selection -/

namespace Job

variable {job : Job}

/-- Whether the extension of a file is among those that a job lists, where dots in
front of a listed one do not count.  A job that lists none takes all files. -/
def Takes (job : Job) (names : List Text) : Prop :=
  job.extensions = [] ∨ ∃ name ending dots, names.getLast? = some name ∧
    HasExtension name ending ∧ List.replicate dots '.' ++ ending ∈ job.extensions

theorem selects_iff {file : TreeFile} : job.selects file = true ↔ job.Takes file.names := by
  unfold selects Takes
  rw [Bool.or_eq_true, List.isEmpty_iff]
  refine or_congr_right ?_
  constructor
  · intro chosen
    split at chosen
    next found extension =>
      obtain ⟨name, last, extension⟩ := Option.bind_eq_some_iff.mp extension
      obtain ⟨wanted, listed, trimmed⟩ := List.any_eq_true.mp chosen
      have has := extension?_eq_some_iff.mp extension
      obtain ⟨_, -, -, free⟩ := id has
      obtain ⟨dots, rfl⟩ := (dropWhile_dots_eq_iff free).mp (by simpa using trimmed)
      exact ⟨name, found, dots, last, has, listed⟩
    next => cases chosen
  · rintro ⟨name, ending, dots, last, has, listed⟩
    rw [last, Option.bind_some, extension?_eq_some_iff.mpr has]
    obtain ⟨_, -, -, free⟩ := has
    exact List.any_eq_true.mpr
      ⟨_, listed, by simpa using (dropWhile_dots_eq_iff free).mpr ⟨dots, rfl⟩⟩

/-- The files that a job is about when its path leads to an entry, and whether a walk
meets them. -/
inductive Covers (job : Job) : Entry → Bool → SourceFile → Prop
  | named (content : Option Text) : Covers job (.file content) true ⟨job.path, content⟩
  | below {listable : Bool} {entries : List (Text × Entry)} {names : List Text} {met : Bool}
      {content : Option Text} (leads : (Entry.directory listable entries).Leads names met content)
      (taken : job.Takes names) :
      Covers job (.directory listable entries) met ⟨below job.path names, content⟩

/-- A job reads exactly the files it is about that a walk meets. -/
theorem mem_files_iff {entry : Entry} {source : SourceFile} :
    source ∈ job.files entry.target? ↔ job.Covers entry true source := by
  cases entry with
  | file content =>
      simp only [Entry.target?, files, List.mem_singleton]
      constructor
      · rintro rfl
        exact .named content
      · rintro ⟨⟩
        rfl
  | directory listable entries =>
      simp only [Entry.target?, files, List.mem_map, (List.mergeSort_perm _ _).mem_iff,
        List.mem_filter, Entry.mem_walk_iff, selects_iff]
      constructor
      · rintro ⟨file, ⟨leads, taken⟩, rfl⟩
        exact .below leads taken
      · rintro (_ | ⟨leads, taken⟩)
        exact ⟨⟨_, _⟩, ⟨leads, taken⟩, rfl⟩
  | other =>
      simp only [Entry.target?, files, List.not_mem_nil, false_iff]
      rintro ⟨⟩

end Job

end CallMarkup.CommandLine
