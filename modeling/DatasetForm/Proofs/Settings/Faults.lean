import DatasetForm.Proofs.Number.Rounding
import DatasetForm.Settings.Load

/-!
What can go wrong when settings are loaded. The settings that are loaded lie in their ranges, and every fault is
reported as one of the configuration but those of a file that goes past everyone who looks for such faults: it stands
at a path that is too long, its bytes are no text, or its text goes past what is read.
-/

set_option autoImplicit false
set_option relaxedAutoImplicit false

namespace DatasetForm

/-! ## Ranges -/

namespace Limits

/-- The ratio lies above zero and not above one, and no quiet period is negative. -/
structure InRange (l : Limits) : Prop where
  ratio : ∃ m e, l.lengthWarningRatio = .finite false m e ∧ 0 < (m : ℚ) * 2 ^ e ∧ (m : ℚ) * 2 ^ e ≤ 1
  quiet : 0 ≤ l.debounceMs
  quietDoi : 0 ≤ l.doiDebounceMs

private theorem ratio_of_ratioHolds {l : Limits} (holds : l.ratioHolds = true) :
    ∃ m e, l.lengthWarningRatio = .finite false m e ∧ 0 < (m : ℚ) * 2 ^ e ∧ (m : ℚ) * 2 ^ e ≤ 1 := by
  rw [ratioHolds, Bool.and_eq_true, beq_iff_eq] at holds
  obtain ⟨above, below⟩ := holds
  cases ratio : l.lengthWarningRatio with
  | nan =>
    rw [ratio] at above
    cases above
  | infinite negative =>
    rw [ratio] at above below
    cases negative
    · simp [Binary64.compareInt?] at below
    · simp [Binary64.compareInt?] at above
  | finite negative m e =>
    have value := Binary64.quotient_value m e
    have positive : (0 : ℚ) < (Binary64.quotient m e).2 := by
      exact_mod_cast Binary64.quotient_positive m e
    rw [ratio] at above below
    simp only [Binary64.compareInt?, Binary64.signedQuotient, Option.some.injEq, Option.any_some, bne_iff_ne, ne_eq,
      compare_gt_iff_gt, zero_mul, one_mul] at above below
    cases negative with
    | true =>
      rw [if_pos rfl] at above
      omega
    | false =>
      rw [if_neg Bool.false_ne_true] at above below
      refine ⟨m, e, rfl, ?_, ?_⟩
      · rw [← value]
        exact div_pos (by exact_mod_cast above) positive
      · rw [← value, div_le_one positive]
        exact_mod_cast not_lt.mp below

theorem inRange_of_checkRanges {l checked : Limits} (ok : l.checkRanges = .ok checked) : checked.InRange := by
  rw [checkRanges] at ok
  split at ok
  · cases ok
  next holds =>
    split at ok
    · cases ok
    next quiet =>
      cases ok
      rw [Bool.or_eq_true, decide_eq_true_eq, decide_eq_true_eq, not_or, not_lt, not_lt] at quiet
      exact ⟨ratio_of_ratioHolds (by simpa using holds), quiet.1, quiet.2⟩

theorem inRange_of_ofSection {fields : Entries} {l : Limits} (ok : ofSection fields = .ok l) : l.InRange := by
  rw [ofSection] at ok
  split at ok
  · exact inRange_of_checkRanges ok
  · cases ok

end Limits

/-! ## The files -/

namespace Config

variable {disk : Disk} {path : String} {paths_ : List String}

/-- The file at a path is read as a value. -/
def Parses (disk : Disk) (path : String) (v : Value) : Prop :=
  ∃ bytes cs, disk path = .file bytes ∧ Text.decodeUtf8 bytes = .ok cs ∧
    Json.readScalars (Text.unifyLines cs) = .ok v

/-- What a path leads to gives no fault: there is no file, or one that holds a mapping or counts as empty. -/
inductive Passes (disk : Disk) (path : String) : Prop
  | missing (absent : disk path = .missing)
  | file {v : Value} (parses : Parses disk path v) (fits : v.isTruthy = false ∨ ∃ entries, v = .mapping entries)

/-- What a path leads to gives a fault that no one reports. -/
inductive Escapes (disk : Disk) (path : String) : Prop
  | tooLong (long : disk path = .tooLong)
  | notText {bytes : List Nat} {fault : Utf8Fault} (found : disk path = .file bytes)
      (undecoded : Text.decodeUtf8 bytes = .error fault)
  | pastLimit {bytes : List Nat} {cs : List Char} {fault : JsonFault} {failure : Failure}
      (found : disk path = .file bytes) (decoded : Text.decodeUtf8 bytes = .ok cs)
      (unread : Json.readScalars (Text.unifyLines cs) = .error fault) (limit : fault.problem.limit? = some failure)

/-- Of the paths in turn, the first that does not pass gives a fault that no one reports. -/
inductive Breaks (disk : Disk) : List String → Prop
  | here {path : String} {others : List String} (escapes : Escapes disk path) : Breaks disk (path :: others)
  | later {path : String} {others : List String} (passes : Passes disk path) (breaks : Breaks disk others) :
      Breaks disk (path :: others)

/-- The entries of a file that holds a mapping or counts as empty. -/
def entriesIn : Value → Entries
  | .mapping entries => entries
  | _ => []

theorem ofFile?_of_parses {v : Value} (parses : Parses disk path v)
    (fits : v.isTruthy = false ∨ ∃ entries, v = .mapping entries) :
    ofFile? disk path = .ok (some (sectioned (entriesIn v))) := by
  obtain ⟨bytes, cs, found, decoded, read⟩ := parses
  have config : ofBytes path bytes = .ok (entriesIn v) := by
    rw [ofBytes, decoded]
    dsimp only
    rw [read]
    dsimp only
    rcases fits with empty | ⟨entries, rfl⟩
    · rw [empty, Bool.not_false, if_pos rfl]
      cases v with
      | mapping entries =>
        have nothing : entries = [] := by simpa [Value.isTruthy] using empty
        rw [nothing, entriesIn]
      | _ => rfl
    · cases entries <;> rfl
  rw [ofFile?, found]
  dsimp only
  rw [config, Except.map]

theorem ofFile?_of_passes (passes : Passes disk path) : ∃ config?, ofFile? disk path = .ok config? := by
  cases passes with
  | missing absent => exact ⟨none, by rw [ofFile?, absent]⟩
  | file parses fits => exact ⟨_, ofFile?_of_parses parses fits⟩

theorem ofFile?_of_escapes (escapes : Escapes disk path) :
    ∃ fault, ofFile? disk path = .error fault ∧ fault.isReported = false := by
  rw [ofFile?]
  cases escapes with
  | tooLong long => exact ⟨.tooLong path, by rw [long], rfl⟩
  | @notText bytes fault found undecoded =>
    refine ⟨.encoding fault.atEnd, ?_, rfl⟩
    rw [found]
    dsimp only
    rw [ofBytes, undecoded]
    rfl
  | @pastLimit bytes cs fault failure found decoded unread limit =>
    refine ⟨.limit failure, ?_, rfl⟩
    rw [found]
    dsimp only
    rw [ofBytes, decoded]
    dsimp only
    rw [unread]
    dsimp only
    rw [faultOf, limit]
    rfl

theorem ofFile?_of_neither (stops : ¬ Passes disk path) (held : ¬ Escapes disk path) :
    ∃ fault, ofFile? disk path = .error fault ∧ fault.isReported = true := by
  rw [ofFile?]
  cases found : disk path with
  | missing => exact absurd (.missing found) stops
  | tooLong => exact absurd (.tooLong found) held
  | folder => exact ⟨.isFolder path, rfl, rfl⟩
  | file bytes =>
    dsimp only
    rw [ofBytes]
    cases decoded : Text.decodeUtf8 bytes with
    | error fault => exact absurd (.notText found decoded) held
    | ok cs =>
      dsimp only
      cases read : Json.readScalars (Text.unifyLines cs) with
      | error fault =>
        cases limit : fault.problem.limit? with
        | none =>
          refine ⟨.malformed path fault (Text.unifyLines cs), ?_, rfl⟩
          dsimp only
          rw [faultOf, limit]
          rfl
        | some failure => exact absurd (.pastLimit found decoded read limit) held
      | ok v =>
        have parses : Parses disk path v := ⟨bytes, cs, found, decoded, read⟩
        have whole : v.isTruthy = true :=
          Bool.not_eq_false _ |>.mp fun empty => stops (.file parses (.inl empty))
        refine ⟨.notMapping path, ?_, rfl⟩
        dsimp only
        rw [whole, Bool.not_true, if_neg Bool.false_ne_true]
        cases v with
        | mapping entries => exact absurd (.file parses (.inr ⟨entries, rfl⟩)) stops
        | _ => rfl

/-! ## All files in turn -/

theorem ofFiles_of_breaks (breaks : Breaks disk paths_) :
    ∃ fault, ofFiles disk paths_ = .error fault ∧ fault.isReported = false := by
  induction breaks with
  | here escapes =>
    obtain ⟨fault, stopped, unreported⟩ := ofFile?_of_escapes escapes
    exact ⟨fault, by rw [ofFiles, stopped]; rfl, unreported⟩
  | later passes _ ih =>
    obtain ⟨config?, read⟩ := ofFile?_of_passes passes
    obtain ⟨fault, stopped, unreported⟩ := ih
    exact ⟨fault, by rw [ofFiles, read, stopped]; rfl, unreported⟩

theorem ofFiles_of_not_breaks (held : ¬ Breaks disk paths_) {fault : ConfigFault}
    (stopped : ofFiles disk paths_ = .error fault) : fault.isReported = true := by
  induction paths_ with
  | nil => cases stopped
  | cons path others ih =>
    rw [ofFiles] at stopped
    by_cases passes : Passes disk path
    · obtain ⟨config?, read⟩ := ofFile?_of_passes passes
      rw [read] at stopped
      apply ih fun breaks => held (.later passes breaks)
      cases rest : ofFiles disk others with
      | error other =>
        rw [rest] at stopped
        exact stopped
      | ok configs =>
        rw [rest] at stopped
        cases stopped
    · obtain ⟨other, read, reported⟩ := ofFile?_of_neither passes fun escapes => held (.here escapes)
      rw [read] at stopped
      cases stopped
      exact reported

/-- The files that are consulted are read in turn, but for an explicit path, at which there has to be one. -/
theorem consulted_cases (disk : Disk) (env : Environment) (path? : Option String) :
    consulted disk env path? = ofFiles disk (paths env path?) ∨
      ∃ path, path? = some path ∧ disk (Path.normal path) = .missing ∧
        consulted disk env path? = .error (.notFound (Path.normal path)) := by
  cases path? with
  | none => exact .inl rfl
  | some path =>
    rw [consulted, paths, ofFiles, ofFiles]
    cases read : ofFile? disk (Path.normal path) with
    | error fault => exact .inl rfl
    | ok config? =>
      cases config? with
      | some config => exact .inl rfl
      | none =>
        refine .inr ⟨path, rfl, ?_, rfl⟩
        rw [ofFile?] at read
        split at read
        next absent => exact absent
        · cases read
        · cases read
        next bytes _ =>
          cases config : ofBytes (Path.normal path) bytes with
          | error fault =>
            rw [config] at read
            cases read
          | ok config =>
            rw [config] at read
            cases read

theorem limitsOf_cases (entries : Entries) :
    (∃ limits, limitsOf (.mapping entries) = .ok limits ∧ limits.InRange) ∨
      ∃ fault, limitsOf (.mapping entries) = .error fault ∧ fault.isReported = true := by
  rw [limitsOf]
  split
  next fields _ =>
    cases read : Limits.ofSection fields with
    | ok limits => exact .inl ⟨limits, rfl, Limits.inRange_of_ofSection read⟩
    | error failure => exact .inr ⟨.invalid failure, rfl, rfl⟩
  · exact .inr ⟨.sectionNotMapping, rfl, rfl⟩

theorem loadLimits_of_breaks {env : Environment} {path? : Option String} (breaks : Breaks disk (paths env path?)) :
    ∃ fault, loadLimits disk env path? = .error fault ∧ fault.isReported = false := by
  obtain ⟨fault, stopped, unreported⟩ := ofFiles_of_breaks breaks
  rcases consulted_cases disk env path? with same | ⟨path, rfl, absent, -⟩
  · exact ⟨fault, by rw [loadLimits, load, same, stopped]; rfl, unreported⟩
  · rw [paths, ofFiles, ofFile?, absent] at stopped
    cases stopped

theorem loadLimits_of_not_breaks {env : Environment} {path? : Option String} (held : ¬ Breaks disk (paths env path?)) :
    (∃ limits, loadLimits disk env path? = .ok limits ∧ limits.InRange) ∨
      ∃ fault, loadLimits disk env path? = .error fault ∧ fault.isReported = true := by
  rw [loadLimits, load]
  rcases consulted_cases disk env path? with same | ⟨path, -, -, missing⟩
  · rw [same]
    cases read : ofFiles disk (paths env path?) with
    | error fault => exact .inr ⟨fault, rfl, ofFiles_of_not_breaks held read⟩
    | ok configs => exact limitsOf_cases _
  · rw [missing]
    exact .inr ⟨_, rfl, rfl⟩

theorem not_breaks_of_reported {env : Environment} {path? : Option String} {fault : ConfigFault}
    (failed : loadLimits disk env path? = .error fault) (reported : fault.isReported = true) :
    ¬ Breaks disk (paths env path?) := by
  intro breaks
  obtain ⟨other, failed', unreported⟩ := loadLimits_of_breaks breaks
  cases failed.symm.trans failed'
  exact Bool.false_ne_true (unreported.symm.trans reported)

/-- A file with one byte that begins no character. -/
def undecodable : Disk :=
  Disk.ofFiles [("dcform.yaml", [0xFF])]

end Config

end DatasetForm
