/-
# How the signing command ends

The program prints an address and ends with status 0, or reports a fault of the library in one line
and ends with status 2.  These are the endings that are meant.  But on a screen without columns
nothing of an address is printed, and the status is 0 all the same; and only faults of the library
are reported.  Any other fault ends the program without a report, and `Unguarded` lists where such
faults come from: a screen that cannot be set up, a configuration file that cannot be opened or
decoded, that holds too long a number or goes too deep, an endpoint that is no address, a path that
is a mark only, an expiry that is too long to be written, a signed address that is too long or
otherwise no address, and one that the stream to the screen does not take.

`sign_ends` says that there is no other ending and that the list is complete, and `run_refusedPort`
that the list is not empty: a port that is no number is enough.
-/
import CloudAccess.CommandLine.Program
import CloudAccess.Proofs.Configuration.File
import CloudAccess.Proofs.Provider.Atmos
import CloudAccess.Proofs.Signing.Refused

namespace CloudAccess

/-! ## 1. Where faults without a report come from -/

namespace CommandLine

/-- The spec that the command resolves. -/
def Resolves (around : Surroundings) (a : Arguments) (s : Spec) : Prop :=
  ∃ c, Configuration.ofSources around.storage (a.sources around) around.levels = .ok c ∧
    (⟨c, Registry.bundled, logger⟩ : Factory).resolve a.request = .ok s

/-- The signer that the command signs with. -/
def SignsWith (around : Surroundings) (a : Arguments) (signer : Signer) : Prop :=
  ∃ s, Resolves around a s ∧ s.signer? (.whole a.lifetime) (.whole a.skew) = .ok signer

/-- The time of expiry that the command asks for. -/
def Arguments.expiry (a : Arguments) (around : Surroundings) : Int :=
  Clock.system around.now + a.lifetime + a.skew

/-- The faults that the signing command comes to and that have no report, once there is a screen. -/
inductive Uncaught (around : Surroundings) (a : Arguments) : Fault → Prop where
  /-- The configuration file is not read. -/
  | file {path : Text} {fault : Fault} (hpath : a.config = some path)
      (h : Configuration.Unread around.storage path around.levels fault) : Uncaught around a fault
  /-- The endpoint is not an address. -/
  | endpoint {s : Spec} {rejection : Url.Rejection} (hs : Resolves around a s)
      (h : s.Misdirected rejection) : Uncaught around a (.address rejection)
  /-- Only a mark was given for the path. -/
  | pathMissing {signer : Signer} (hs : SignsWith around a signer) (hpath : a.path = none) :
    Uncaught around a .notText
  /-- The time of expiry is too long to be written. -/
  | expiry {signer : Signer} {path : Text} (hs : SignsWith around a signer)
      (hpath : a.path = some path) (hdot : Signer.hasDotSegment path = false)
      (hlong : Integer.isWritable (a.expiry around) = false) :
    Uncaught around a (.misreadInteger .unwritable)
  /-- The path has been signed, and what is to be printed is not an address. -/
  | target {signer : Signer} {path identity signature : Text} {rejection : Url.Rejection}
      (hs : SignsWith around a signer) (hpath : a.path = some path)
      (h : signer.Prepared around.now path identity (a.expiry around))
      (hsignature : signer.signature (some (Signer.lines path identity (a.expiry around)))
        = .ok signature)
      (haddress : signer.address (Signer.namespacePath ++ path) identity
        (Integer.write (a.expiry around)) signature = .error (.address rejection)) :
    Uncaught around a (.address rejection)
  /-- The address is there, and the stream does not take it. -/
  | stream {signer : Signer} {path : Text} {u : SignedUrl} {fault : Unreported}
      (hs : SignsWith around a signer) (hpath : a.path = some path)
      (hissued : signer.Issued around.now path u) (hwidth : around.width ≠ 0)
      (hrefuses : around.refuses (written u.url) = some fault) : Uncaught around a fault

/-- The faults that end the signing command without a report. -/
inductive Unguarded (around : Surroundings) (a : Arguments) : Fault → Prop where
  /-- The screen cannot be set up. -/
  | screen {fault : Fault} (h : screenTrouble? around.environment = some fault) :
    Unguarded around a fault
  | uncaught {fault : Fault} (hscreen : screenTrouble? around.environment = none)
      (h : Uncaught around a fault) : Unguarded around a fault

theorem Uncaught.not_isReported {around : Surroundings} {a : Arguments} {fault : Fault}
    (h : Uncaught around a fault) : fault.category.isReported = false := by
  have haddress : ∀ rejection, (Fault.address rejection).category.isReported = false := by
    intro rejection
    cases rejection <;> rfl
  cases h with
  | file hpath h => exact h.not_isReported
  | endpoint hs h => exact haddress _
  | pathMissing hs hpath => rfl
  | expiry hs hpath hdot hlong => rfl
  | target hs hpath h hsignature hrejected => exact haddress _
  | @stream _ _ _ fault => exact fault.property

/-! ## 2. What goes to the screen -/

theorem display_eq_ok_iff {around : Surroundings} {text output : Text} :
    around.display text = .ok output ↔
      around.width = 0 ∧ output = [] ∨
        around.width ≠ 0 ∧ around.refuses text = none ∧ output = text := by
  rw [Surroundings.display]
  split
  · next hwidth => simp [hwidth, eq_comm]
  · next hwidth =>
    cases around.refuses text with
    | some fault => simp [hwidth]
    | none => simp [hwidth, eq_comm]

theorem display_eq_error_iff {around : Surroundings} {text : Text} {failure : Failure} :
    around.display text = .error failure ↔
      around.width ≠ 0 ∧ ∃ fault, around.refuses text = some fault ∧ failure = .ofFault fault := by
  rw [Surroundings.display]
  split
  · next hwidth => simp [hwidth]
  · next hwidth =>
    cases around.refuses text with
    | none => simp [hwidth]
    | some fault =>
      constructor
      · intro h
        exact ⟨hwidth, fault, rfl, (Except.error.inj h).symm⟩
      · rintro ⟨-, other, hother, rfl⟩
        cases hother
        rfl

/-! ## 3. Signing -/

variable {around : Surroundings} {a : Arguments} {s : Spec} {signer : Signer}

/-- The signer of a spec has an identity, a clock of whole seconds and a code. -/
theorem SignsWith.parts (h : SignsWith around a signer) :
    (∃ identity, signer.identity = some identity) ∧
      signer.expiry around.now = (if Integer.isWritable (a.expiry around) then
        .ok (a.expiry around) else .error (.misreadInteger .unwritable)) ∧
      ∃ code, signer.code = .ok code := by
  obtain ⟨s, -, hsigner⟩ := h
  obtain ⟨identity, credential, endpoint, key, -, -, -, -, -, -, -, hmade⟩ :=
    Spec.signer?_eq_ok_iff.mp hsigner
  obtain ⟨hidentity, hclock, hcode⟩ := Signer.create?_eq_ok hmade
  refine ⟨⟨identity, hidentity⟩, ?_, ⟨_, hcode⟩⟩
  rw [Signer.expiry, hclock]
  rfl

/-- **A signer of the command refuses** with a fault that is reported, or with one of the list. -/
theorem SignsWith.refused (hs : SignsWith around a signer) {failure : Failure}
    (h : signer.Refused around.now a.path failure) :
    failure.fault.category.isReported = true ∨
      ∃ fault, failure = .ofFault fault ∧ Uncaught around a fault := by
  obtain ⟨⟨identity, hidentity⟩, hexpiry, code, hcode⟩ := hs.parts
  -- the path is named, so that what is known of it can be kept apart from the cases
  generalize hpath : a.path = path? at h
  cases h with
  | pathMissing => exact .inr ⟨_, rfl, .pathMissing hs hpath⟩
  | dotSegment hdot => exact .inl rfl
  | @expiry path fault hdot hfault =>
    rw [hexpiry] at hfault
    split at hfault
    · cases hfault
    · next hlong =>
      cases hfault
      exact .inr ⟨_, rfl, .expiry hs hpath hdot (Bool.eq_false_iff.mpr hlong)⟩
  | identityMissing hdot hexpires hnone =>
    rw [hidentity] at hnone
    cases hnone
  | signature h hsignature =>
    obtain ⟨u, rfl⟩ := Signer.unsignable_of_signature hcode hsignature
    exact .inl (by rw [Failure.fault_wrap]; rfl)
  | @address path name signature expires fault h hsignature haddress =>
    obtain rfl : expires = a.expiry around := by
      have hexpires := h.expiry
      rw [hexpiry] at hexpires
      split at hexpires
      · exact (Except.ok.inj hexpires).symm
      · cases hexpires
    obtain ⟨rejection, rfl⟩ := Signer.rejected_of_address hsignature haddress
    exact .inr ⟨_, rfl, .target hs hpath h hsignature haddress⟩

/-- What the command does once the spec is there. -/
theorem signed_of_signsWith (h : s.signer? (.whole a.lifetime) (.whole a.skew) = .ok signer) :
    (signed around a s).result = ((signer.sign logger around.now a.path).outcome >>=
      fun address => around.display (written address.url)) := by
  rw [signed, h]

theorem signed_error (hs : Resolves around a s) {failure : Failure}
    (h : (signed around a s).result = .error failure) :
    failure.fault.category.isReported = true ∨
      ∃ fault, failure = .ofFault fault ∧ Uncaught around a fault := by
  cases hsigner : s.signer? (.whole a.lifetime) (.whole a.skew) with
  | error refusal =>
    rw [signed, hsigner] at h
    cases h
    rcases Spec.signer?_eq_error hsigner with hreported | ⟨rejection, hmisdirected, rfl⟩
    · exact .inl hreported
    · exact .inr ⟨_, rfl, .endpoint hs hmisdirected⟩
  | ok signer =>
    rw [signed_of_signsWith hsigner] at h
    cases hsigned : (signer.sign logger around.now a.path).outcome with
    | ok address =>
      rw [hsigned] at h
      obtain ⟨hwidth, fault, hrefuses, rfl⟩ := display_eq_error_iff.mp h
      obtain ⟨path, hpath, hissued⟩ := Signer.sign_eq_ok_iff.mp hsigned
      exact .inr ⟨fault, rfl, .stream ⟨s, hs, hsigner⟩ hpath hissued hwidth hrefuses⟩
    | error refusal =>
      rw [hsigned] at h
      cases h
      exact SignsWith.refused ⟨s, hs, hsigner⟩ (Signer.sign_eq_error_iff.mp hsigned)

/-! ## 4. The command -/

theorem perform_of_resolves (h : Resolves around a s) :
    (Invocation.perform ⟨.sign, a⟩ around).result = (signed around a s).result := by
  obtain ⟨c, hc, hs⟩ := h
  rw [Invocation.perform]
  simp only [hc, Factory.createSpec, hs]
  rfl

/-- The command ends in a fault of the file, in one that is reported, or in signing. -/
theorem perform_cases (around : Surroundings) (a : Arguments) :
    (∃ path fault, a.config = some path ∧
        Configuration.ofFile around.storage path around.levels = .error fault ∧
        (Invocation.perform ⟨.sign, a⟩ around).result = .error (.ofFault fault)) ∨
      (∃ fault, fault.category.isReported = true ∧
        (Invocation.perform ⟨.sign, a⟩ around).result = .error (.ofFault fault)) ∨
      ∃ s, Resolves around a s := by
  cases hc : Configuration.ofSources around.storage (a.sources around) around.levels with
  | error fault =>
    refine .inl ?_
    have hresult : (Invocation.perform ⟨.sign, a⟩ around).result = .error (.ofFault fault) := by
      rw [Invocation.perform]
      simp only [hc]
    have hpath : (a.sources around).path = a.config := rfl
    rw [Configuration.ofSources, hpath] at hc
    split at hc
    · cases hc
    · next path hconfig =>
      split at hc
      · next fault' hfile =>
        cases hc
        exact ⟨path, fault, hconfig, hfile, hresult⟩
      · cases hc
  | ok c =>
    refine .inr ?_
    cases hs : (⟨c, Registry.bundled, logger⟩ : Factory).resolve a.request with
    | error fault =>
      refine .inl ⟨fault, Factory.isReported_of_resolve hs, ?_⟩
      rw [Invocation.perform]
      simp only [hc, Factory.createSpec, hs]
      rfl
    | ok s => exact .inr ⟨s, c, hc, hs⟩

theorem perform_error {failure : Failure}
    (h : (Invocation.perform ⟨.sign, a⟩ around).result = .error failure) :
    failure.fault.category.isReported = true ∨
      ∃ fault, failure = .ofFault fault ∧ Uncaught around a fault := by
  rcases perform_cases around a with ⟨path, fault, hpath, hfile, hresult⟩ |
    ⟨fault, hreported, hresult⟩ | ⟨s, hs⟩
  · obtain rfl := Except.error.inj (hresult.symm.trans h)
    cases hreported : fault.category.isReported with
    | true => exact .inl hreported
    | false =>
      exact .inr ⟨fault, rfl, .file hpath (Configuration.unread_of_ofFile hfile hreported)⟩
  · obtain rfl := Except.error.inj (hresult.symm.trans h)
    exact .inl hreported
  · rw [perform_of_resolves hs] at h
    exact signed_error hs h

/-- Where the command ends well, an address was issued, and the line with it goes to the screen. -/
theorem perform_ok {output : Text}
    (h : (Invocation.perform ⟨.sign, a⟩ around).result = .ok output) :
    ∃ signer path u, SignsWith around a signer ∧ a.path = some path ∧
      signer.Issued around.now path u ∧ around.display (written u.url) = .ok output := by
  rcases perform_cases around a with ⟨path, fault, -, -, hresult⟩ | ⟨fault, -, hresult⟩ | ⟨s, hs⟩
  · rw [hresult] at h
    cases h
  · rw [hresult] at h
    cases h
  · rw [perform_of_resolves hs] at h
    cases hsigner : s.signer? (.whole a.lifetime) (.whole a.skew) with
    | error failure =>
      rw [signed, hsigner] at h
      cases h
    | ok signer =>
      rw [signed_of_signsWith hsigner] at h
      cases hsigned : (signer.sign logger around.now a.path).outcome with
      | error failure =>
        rw [hsigned] at h
        cases h
      | ok u =>
        rw [hsigned] at h
        obtain ⟨path, hpath, hissued⟩ := Signer.sign_eq_ok_iff.mp hsigned
        exact ⟨signer, path, u, ⟨s, hs, hsigner⟩, hpath, hissued, h⟩

/-- Every fault of the list ends the command. -/
theorem Uncaught.perform {fault : Fault} (h : Uncaught around a fault) :
    (Invocation.perform ⟨.sign, a⟩ around).result = .error (.ofFault fault) := by
  -- where there is a signer, what is refused is what the command ends in
  have hrefused : ∀ {signer : Signer}, SignsWith around a signer →
      signer.Refused around.now a.path (.ofFault fault) →
      (Invocation.perform ⟨.sign, a⟩ around).result = .error (.ofFault fault) := by
    rintro signer ⟨s, hs, hsigner⟩ hrefused
    rw [perform_of_resolves hs, signed_of_signsWith hsigner, Signer.sign_eq_error_iff.mpr hrefused]
    rfl
  cases h with
  | file hpath h =>
    have hsource : (a.sources around).path = a.config := rfl
    rw [Invocation.perform, Configuration.ofSources, hsource, hpath]
    simp only [h.ofFile]
  | endpoint hs h =>
    rw [perform_of_resolves hs, signed, h.signer?]
  | pathMissing hs hpath =>
    refine hrefused hs ?_
    rw [hpath]
    exact .pathMissing
  | expiry hs hpath hdot hlong =>
    refine hrefused hs ?_
    rw [hpath]
    refine .expiry hdot ?_
    rw [hs.parts.2.1, hlong, if_neg Bool.false_ne_true]
  | target hs hpath h hsignature haddress =>
    refine hrefused hs ?_
    rw [hpath]
    exact .address h hsignature haddress
  | @stream signer path u fault hs hpath hissued hwidth hrefuses =>
    obtain ⟨s, hresolves, hsigner⟩ := hs
    rw [perform_of_resolves hresolves, signed_of_signsWith hsigner,
      Signer.sign_eq_ok_iff.mpr ⟨path, hpath, hissued⟩]
    exact display_eq_error_iff.mpr ⟨hwidth, fault, hrefuses, rfl⟩

/-- Without a screen the command is not begun. -/
theorem run_of_screenTrouble {words : List Text}
    (hwords : Invocation.ofWords words = .ok ⟨.sign, a⟩) {fault : Fault}
    (h : screenTrouble? around.environment = some fault) :
    run around words = .error (.ofFault fault) := by
  rw [run, hwords]
  simp only [h]

/-- What the command shows is written, and the program ends well. -/
theorem run_of_perform_ok {words : List Text}
    (hwords : Invocation.ofWords words = .ok ⟨.sign, a⟩)
    (hscreen : screenTrouble? around.environment = none) {output : Text}
    (h : (Invocation.perform ⟨.sign, a⟩ around).result = .ok output) :
    run around words = .ok ⟨0, output, [],
      Log.admitted a.level (Invocation.perform ⟨.sign, a⟩ around).log⟩ := by
  rw [run, hwords]
  simp only [hscreen, h]

/-- What the command fails with is reported, if it is a fault of the library. -/
theorem run_of_perform_error {words : List Text}
    (hwords : Invocation.ofWords words = .ok ⟨.sign, a⟩)
    (hscreen : screenTrouble? around.environment = none) {failure : Failure}
    (h : (Invocation.perform ⟨.sign, a⟩ around).result = .error failure) :
    run around words = if failure.fault.category.isReported then
        .ok ⟨2, [], report failure.fault,
          Log.admitted a.level (Invocation.perform ⟨.sign, a⟩ around).log⟩
      else .error failure := by
  rw [run, hwords]
  simp only [hscreen, h]

/-- Every fault of the list ends the program. -/
theorem Unguarded.run {words : List Text} (hwords : Invocation.ofWords words = .ok ⟨.sign, a⟩)
    {fault : Fault} (h : Unguarded around a fault) :
    CommandLine.run around words = .error (.ofFault fault) := by
  cases h with
  | screen h => exact run_of_screenTrouble hwords h
  | uncaught hscreen h =>
    rw [run_of_perform_error hwords hscreen h.perform, Failure.fault_ofFault, h.not_isReported,
      if_neg Bool.false_ne_true]

/-- **The endings of the signing command.**  It prints the address that its signer issues for the
path and ends with status 0, or ends so without printing it on a screen that has no columns, or
reports one fault and ends with status 2, or ends without a report; and it ends without a report in
the faults of the list and in no others. -/
theorem sign_ends {words : List Text} (hwords : Invocation.ofWords words = .ok ⟨.sign, a⟩) :
    ((∃ signer path u log, SignsWith around a signer ∧ a.path = some path ∧
          signer.Issued around.now path u ∧
          (around.width ≠ 0 ∧ run around words = .ok ⟨0, written u.url, [], log⟩ ∨
            around.width = 0 ∧ run around words = .ok ⟨0, [], [], log⟩)) ∨
        (∃ fault log, fault.category.isReported = true ∧
          run around words = .ok ⟨2, [], report fault, log⟩) ∨
        ∃ fault, run around words = .error (.ofFault fault)) ∧
      ∀ fault, run around words = .error (.ofFault fault) ↔ Unguarded around a fault := by
  cases hscreen : screenTrouble? around.environment with
  | some trouble =>
    have hrun := run_of_screenTrouble hwords hscreen
    refine ⟨.inr (.inr ⟨trouble, hrun⟩), fun fault => ⟨fun h => ?_, fun h => h.run hwords⟩⟩
    rw [hrun] at h
    cases h
    exact .screen hscreen
  | none =>
    cases hresult : (Invocation.perform ⟨.sign, a⟩ around).result with
    | ok output =>
      have hrun := run_of_perform_ok hwords hscreen hresult
      refine ⟨.inl ?_, fun fault => ⟨fun h => ?_, fun h => h.run hwords⟩⟩
      · obtain ⟨signer, path, u, hsigner, hpath, hissued, hshown⟩ := perform_ok hresult
        rcases display_eq_ok_iff.mp hshown with ⟨hwidth, rfl⟩ | ⟨hwidth, -, rfl⟩
        · exact ⟨signer, path, u, _, hsigner, hpath, hissued, .inr ⟨hwidth, hrun⟩⟩
        · exact ⟨signer, path, u, _, hsigner, hpath, hissued, .inl ⟨hwidth, hrun⟩⟩
      · rw [hrun] at h
        cases h
    | error failure =>
      rcases perform_error hresult with hreported | ⟨fault, rfl, h⟩
      · have hrun := run_of_perform_error hwords hscreen hresult
        rw [if_pos hreported] at hrun
        refine ⟨.inr (.inl ⟨_, _, hreported, hrun⟩),
          fun fault => ⟨fun h => ?_, fun h => h.run hwords⟩⟩
        rw [hrun] at h
        cases h
      · have hrun := (Unguarded.uncaught hscreen h).run hwords
        refine ⟨.inr (.inr ⟨fault, hrun⟩), fun other => ⟨fun hother => ?_, fun h => h.run hwords⟩⟩
        rw [hrun] at hother
        cases hother
        exact .uncaught hscreen h

/-- A call for an endpoint whose port is no number. -/
def refusedPortCall : Arguments where
  provider := some "atmos"
  path := some "a"
  identity := some "u"
  credential := some "a2V5"
  define := [("atmos.endpoint", "https://host:port")]

/-- The words of the call. -/
def refusedPortWords : List Text :=
  ["sign", "atmos", "a", "--identity", "u", "--credential", "a2V5", "-D",
    "atmos.endpoint=https://host:port"]

/-- Surroundings in which there is nothing but the time. -/
def bareAround : Surroundings where
  storage := fun _ => .missing
  environment := Dictionary.empty
  now := .whole 1000
  width := 80

theorem ofWords_refusedPortWords :
    Invocation.ofWords refusedPortWords = .ok ⟨.sign, refusedPortCall⟩ := by
  decide +kernel

/-- A port that is no number ends the command without a report, so it is one of the faults of the
list. -/
theorem sign_ends_refusedPort :
    Invocation.ofWords refusedPortWords = .ok ⟨.sign, refusedPortCall⟩ ∧
      Unguarded bareAround refusedPortCall (.address (.invalidPort "port")) :=
  ⟨ofWords_refusedPortWords,
    ((sign_ends ofWords_refusedPortWords).2 (.address (.invalidPort "port"))).mp
      (by decide +kernel)⟩

/-- **Not every call ends in an address or a report.**  The words are read as a call, and the
program ends without either. -/
theorem run_refusedPort :
    ¬ ∀ around words a, Invocation.ofWords words = .ok ⟨.sign, a⟩ →
      ∃ outcome, run around words = .ok outcome := by
  intro h
  obtain ⟨outcome, houtcome⟩ := h bareAround refusedPortWords _ ofWords_refusedPortWords
  have hrun : run bareAround refusedPortWords
      = .error (.ofFault (.address (.invalidPort "port"))) := by
    decide +kernel
  rw [hrun] at houtcome
  cases houtcome

end CommandLine

end CloudAccess
