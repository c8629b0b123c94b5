import CallMarkup.Proofs.CommandLine.Selection

/-!
# What the exit status of a check says

A check ends well exactly if every file that it reads is a text in which nothing is
wrong.  It does not read what a walk passes over, nor does it tell a directory without
files from a path that leads nowhere; `exitCode_of_check` says when its success
vouches for everything below the path, and when it does not.
-/

namespace CallMarkup.CommandLine

/-- Whether a file is a text in which nothing is wrong. -/
def SourceFile.Clean (grammar : Grammar) (source : SourceFile) : Prop :=
  ∃ text, source.content = some text ∧ grammar.check source.path text = []

/-- Whether a path leads to a file or a directory and nothing is wrong with any file
that the job is about, met by a walk or not. -/
def Job.Vouched (job : Job) (grammar : Grammar) (entry : Entry) : Prop :=
  entry ≠ .other ∧ ∀ met source, job.Covers entry met source → source.Clean grammar

/-- The number with which a command line ends in a file system. -/
def exitCode (words : List Text) (system : Text → Entry) : Nat :=
  (answer words fun path => (system path).target?).status.exitCode

/-! ## Files in a row -/

/-- A path with the text of the file there. -/
def SourceFile.ofText : Text × Text → SourceFile
  | (path, text) => ⟨path, some text⟩

/-- Reading goes through all files, or up to the first one that is no text. -/
theorem readable_cases (files : List SourceFile) :
    ((readable files).2 = none ∧ files = (readable files).1.map SourceFile.ofText) ∨
      ∃ path after, (readable files).2 = some path ∧
        files = (readable files).1.map SourceFile.ofText ++ ⟨path, none⟩ :: after := by
  fun_induction readable files with
  | case1 => exact .inl ⟨rfl, rfl⟩
  | case2 path files => exact .inr ⟨path, files, rfl, rfl⟩
  | case3 path text files contents unreadable reads ih =>
      rw [reads] at ih
      rcases ih with ⟨complete, whole⟩ | ⟨other, after, broken, whole⟩
      · exact .inl ⟨complete, congrArg _ whole⟩
      · exact .inr ⟨other, after, broken, congrArg _ whole⟩

variable {grammar : Grammar} {files : List SourceFile}

theorem check_failure_iff :
    (check grammar files).status = .failure ↔ ∃ source ∈ files, source.content = none := by
  rcases readable_cases files with ⟨complete, whole⟩ | ⟨path, after, broken, whole⟩
  · have allTexts : ¬∃ source ∈ files, source.content = none := by
      rintro ⟨source, member, missing⟩
      rw [whole] at member
      obtain ⟨_, -, rfl⟩ := List.mem_map.mp member
      cases missing
    refine iff_of_false (fun failed => ?_) allTexts
    simp only [check, complete] at failed
    split at failed <;> cases failed
  · refine iff_of_true ?_ ⟨⟨path, none⟩, by rw [whole]; simp, rfl⟩
    simp only [check, broken]

theorem check_success_of_complete (complete : (readable files).2 = none) :
    (check grammar files).status = .success ↔
      ∀ source ∈ (readable files).1, grammar.check source.1 source.2 = [] := by
  simp only [check, complete]
  split <;> simp_all

theorem check_success_iff :
    (check grammar files).status = .success ↔ ∀ source ∈ files, source.Clean grammar := by
  rcases readable_cases files with ⟨complete, whole⟩ | ⟨path, after, broken, whole⟩
  · rw [check_success_of_complete complete]
    constructor
    · intro nothing source member
      rw [whole] at member
      obtain ⟨⟨path, text⟩, listed, rfl⟩ := List.mem_map.mp member
      exact ⟨text, rfl, nothing _ listed⟩
    · rintro clean ⟨path, text⟩ listed
      have member : SourceFile.ofText (path, text) ∈ files := by
        rw [whole]
        exact List.mem_map_of_mem listed
      obtain ⟨_, same, nothing⟩ := clean _ member
      obtain rfl := Option.some.inj same
      exact nothing
  · refine iff_of_false (fun passed => ?_) fun clean => ?_
    · simp only [check, broken] at passed
      cases passed
    · obtain ⟨_, missing, -⟩ := clean ⟨path, none⟩ (by rw [whole]; simp)
      cases missing

/-! ## The exit status -/

variable {words : List Text} {job : Job} {config : Config} {system : Text → Entry}

namespace Status

variable {status : Status}

theorem exitCode_eq_zero_iff : status.exitCode = 0 ↔ status = .success := by
  cases status <;> simp [exitCode]

theorem exitCode_eq_one_iff : status.exitCode = 1 ↔ status ≠ .failure ∧ status ≠ .success := by
  cases status <;> simp [exitCode]

theorem exitCode_eq_two_iff : status.exitCode = 2 ↔ status = .failure := by
  cases status <;> simp [exitCode]

end Status

theorem answer_of_check {lookUp : Text → Option Target}
    (request : Request.ofWords words = .ok (.run job)) (checks : job.command = .check)
    (loaded : job.loadConfig lookUp = .ok config) :
    answer words lookUp = check config.grammar (job.files (lookUp job.path)) := by
  simp only [answer, request, Job.run, loaded, checks]

/-- A check ends with 0 exactly if nothing is wrong with the files that a walk meets,
with 2 if one of them is no text, and otherwise with 1.  So its success vouches for
all files below the path exactly if the path leads to a file or a directory and
nothing is wrong in the directories that are passed over. -/
theorem exitCode_of_check (request : Request.ofWords words = .ok (.run job))
    (checks : job.command = .check)
    (loaded : job.loadConfig (fun path => (system path).target?) = .ok config) :
    (exitCode words system = 0 ↔
        ∀ source, job.Covers (system job.path) true source → source.Clean config.grammar) ∧
      (exitCode words system = 1 ↔
        (∀ source, job.Covers (system job.path) true source → source.content ≠ none) ∧
          ∃ source, job.Covers (system job.path) true source ∧ ¬source.Clean config.grammar) ∧
      (exitCode words system = 2 ↔
        ∃ source, job.Covers (system job.path) true source ∧ source.content = none) ∧
      ((exitCode words system = 0 ↔ job.Vouched config.grammar (system job.path)) ↔
        system job.path ≠ .other ∧
          (exitCode words system = 0 →
            ∀ source, job.Covers (system job.path) false source →
              source.Clean config.grammar)) := by
  have success := @check_success_iff config.grammar (job.files (system job.path).target?)
  have failure := @check_failure_iff config.grammar (job.files (system job.path).target?)
  simp only [Job.mem_files_iff] at success failure
  have ends : exitCode words system =
      (check config.grammar (job.files (system job.path).target?)).status.exitCode := by
    rw [exitCode, answer_of_check request checks loaded]
  have zero : exitCode words system = 0 ↔
      ∀ source, job.Covers (system job.path) true source → source.Clean config.grammar := by
    rw [ends, Status.exitCode_eq_zero_iff, success]
  refine ⟨zero, ?_, ?_, ?_⟩
  · rw [ends, Status.exitCode_eq_one_iff, ne_eq, ne_eq, failure, success]
    simp only [not_exists, not_and, not_forall, exists_prop, ne_eq]
  · rw [ends, Status.exitCode_eq_two_iff, failure]
  · constructor
    · intro vouches
      refine ⟨fun nowhere => ?_, fun passed => (vouches.mp passed).2 false⟩
      -- Where there is nothing, nothing is wrong.
      have passed : exitCode words system = 0 := by
        rw [zero, nowhere]
        rintro source ⟨⟩
      exact (vouches.mp passed).1 nowhere
    · rintro ⟨somewhere, unseen⟩
      refine ⟨fun passed => ⟨somewhere, fun met source covers => ?_⟩, fun vouched => ?_⟩
      · cases met with
        | true => exact zero.mp passed source covers
        | false => exact unseen passed source covers
      · exact zero.mpr (vouched.2 true)

/-- Besides a clean text and a file that is no text, a directory holds one that cannot
be listed, with an open unit in it. -/
def halfHidden (path : Text) : Entry :=
  if path = ['d'] then
    .directory true
      [(['a', '.', 'm', 'd'], .file (some ['{', '{', 'x', '}', '}'])),
        (['b'], .file none),
        (['c'], .directory false [(['o', '.', 'm', 'd'], .file (some ['{', '{']))])]
  else .other

def checkTexts : Job :=
  { command := .check, path := ['d'], extensions := [['.', 'm', 'd']] }

/-- A check of the texts there ends well, though one of them has an open unit. -/
theorem halfHidden_exitCode :
    exitCode [['c', 'h', 'e', 'c', 'k'], ['d'], ['-', '-', 'e', 'x', 't', '=', '.', 'm', 'd']]
        halfHidden = 0 ∧
      ¬checkTexts.Vouched Grammar.default (halfHidden ['d']) := by
  have passed : exitCode
      [['c', 'h', 'e', 'c', 'k'], ['d'], ['-', '-', 'e', 'x', 't', '=', '.', 'm', 'd']]
        halfHidden = 0 := by
    decide +kernel
  have request : Request.ofWords
      [['c', 'h', 'e', 'c', 'k'], ['d'], ['-', '-', 'e', 'x', 't', '=', '.', 'm', 'd']] =
        .ok (.run checkTexts) :=
    rfl
  obtain ⟨-, -, -, vouches⟩ := @exitCode_of_check _ _ {} halfHidden request rfl rfl
  refine ⟨passed, fun vouched => ?_⟩
  obtain ⟨-, unseen⟩ := vouches.mp (iff_of_true passed vouched)
  have covers : checkTexts.Covers (halfHidden ['d']) false
      ⟨['d', '/', 'c', '/', 'o', '.', 'm', 'd'], some ['{', '{']⟩ := by
    have extension : HasExtension ['o', '.', 'm', 'd'] ['m', 'd'] := ⟨['o'], by decide⟩
    exact .below (.within (.tail _ (.tail _ (.head _))) (.within (.head _) (.here _)))
      (.inr ⟨['o', '.', 'm', 'd'], ['m', 'd'], 1, rfl, extension, .head _⟩)
  obtain ⟨_, same, nothing⟩ := unseen passed _ covers
  obtain rfl := Option.some.inj same
  revert nothing
  decide +kernel

/-- Nothing but one file, which has an open unit. -/
def loneText (path : Text) : Entry :=
  if path = ['a'] then .file (some ['{', '{', 'a']) else .other

/-- Success does not always vouch for something: the path may lead nowhere. -/
theorem check_not_always_vouches :
    ¬∀ (words : List Text) (job : Job) (config : Config) (system : Text → Entry),
      Request.ofWords words = .ok (.run job) → job.command = .check →
        job.loadConfig (fun path => (system path).target?) = .ok config →
          (exitCode words system = 0 ↔ job.Vouched config.grammar (system job.path)) := by
  intro always
  have passed : exitCode [['c', 'h', 'e', 'c', 'k'], ['b']] loneText = 0 := by
    decide +kernel
  have vouched := always [['c', 'h', 'e', 'c', 'k'], ['b']] { command := .check, path := ['b'] } {}
    loneText rfl rfl rfl
  exact (vouched.mp passed).1 rfl

end CallMarkup.CommandLine
