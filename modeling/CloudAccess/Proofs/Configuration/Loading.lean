/-
# What becomes of a file of settings

A file that is there and can be opened has some content, and whatever the content is, one of five
things becomes of it (`ofFile_outcomes`).  It gives the settings that its members say; it is refused
as a fault of the configuration; it is not in UTF-8; or the first thing that keeps it from being
read is an integer that is too long, or a container that stands inside too many others.  Which of
them it is, is said in terms of the text and of the document, and not of how they are read.

The last three are no faults of the configuration (`ofFile_loneByte`).  How many levels the reader
has is not known here, so all is said for any number of them.
-/
import CloudAccess.Proofs.Configuration.File

namespace CloudAccess.Configuration

open Json

/-! ## 1. Documents that give no settings -/

/-- **Why a text gives no settings:** it is no document, however many levels there are, it is one
whose value is no object, or it last gives a name something that is neither a text nor `null`. -/
inductive Refused (t : Text) : Prop
  | noDocument (none : ∀ n v, ¬Document n t (.value v))
  | noObject {n : Nat} {v : Value} (document : Document n t (.value v))
      (other : ∀ entries, v ≠ .object entries)
  | noText {n : Nat} {members : List (Text × Value)} {name : Text} {v : Value}
      (document : Document n t (.object members))
      (last : IsLast (fun p => p.1 = name) members (name, v)) (not_null : v ≠ .null)
      (not_text : ∀ u, v ≠ .text u)

/-- A document denotes one value, however many levels there are. -/
theorem value_unique {m n : Nat} {t : Text} {v w : Value} (h : Document m t (.value v))
    (h' : Document n t (.value w)) : v = w := by
  have hread := read_of_document h'
  rcases h.onLevels rfl n with hv | ⟨container, hstops⟩
  · exact Except.ok.inj ((read_of_document hv).symm.trans hread)
  · rw [read_of_stopsAt hstops] at hread
    cases hread

/-- **Every text** gives settings, is refused, or comes to an obstacle. -/
theorem settings_or_refused_or_stopsAt (levels : Nat) (t : Text) :
    (∃ members, Document levels t (.object members) ∧ TextsOrNull members) ∨
      (Refused t ∧ ∀ o, ¬StopsAt o levels t) ∨ ∃ o, StopsAt o levels t := by
  by_cases hstopped : ∃ o, StopsAt o levels t
  · exact Or.inr (Or.inr hstopped)
  · have hfree : ∀ o, ¬StopsAt o levels t := not_exists.mp hstopped
    by_cases hdocument : ∃ n v, Document n t (.value v)
    · obtain ⟨n, v, hany⟩ := hdocument
      have hv : Document levels t (.value v) :=
        (hany.onLevels rfl levels).resolve_right fun ⟨_, hstops⟩ => hfree _ hstops
      by_cases hobject : ∃ entries, v = .object entries
      · obtain ⟨entries, rfl⟩ := hobject
        obtain ⟨members, hmembers, -⟩ := document_object_iff.mp hv
        by_cases htexts : TextsOrNull members
        · exact Or.inl ⟨members, hmembers, htexts⟩
        · simp only [TextsOrNull, not_forall, not_or, not_exists] at htexts
          obtain ⟨name, v, hlast, hnull, htext⟩ := htexts
          exact Or.inr (Or.inl ⟨.noText hmembers hlast hnull htext, hfree⟩)
      · exact Or.inr (Or.inl ⟨.noObject hv (not_exists.mp hobject), hfree⟩)
    · exact Or.inr (Or.inl ⟨.noDocument fun n v h => hdocument ⟨n, v, h⟩, hfree⟩)

/-! ## 2. Settings are determined by the members -/

/-- **Members say one thing.** -/
theorem Gives.unique {members : List (Text × Value)} {a b : Settings} (ha : Gives members a)
    (hb : Gives members b) : a = b := by
  have hget : ∀ key, a.get? key = b.get? key := fun key => Option.ext fun v =>
    (ha.found key v).trans (hb.found key v).symm
  have hmem : ∀ key, key ∈ a.keys ↔ key ∈ b.keys := by
    intro key
    rw [Dictionary.keys, Dictionary.keys, ← Entries.find?_isSome_iff, ← Entries.find?_isSome_iff]
    exact iff_of_eq (congrArg (fun v => v.isSome = true) (hget key))
  refine Dictionary.ext_of_keys ?_ hget
  have hperm : a.keys.Perm b.keys := (List.perm_ext_iff_of_nodup a.nodup b.nodup).mpr hmem
  exact hperm.eq_of_pairwise (fun x y _ _ hxy hyx => absurd hxy (Nat.lt_asymm hyx))
    ha.order hb.order

/-! ## 3. Outcomes -/

section Outcomes

variable {storage : Storage} {path : Text} {content : Bytes} {levels : Nat}

/-- The fault of a file in which reading comes to an obstacle. -/
def obstacleFault : Obstacle → Fault
  | .integer digits => .misreadInteger (.tooLong digits)
  | .tooDeep container => .tooDeep container

theorem ofFile_of_stopsAt (hfound : storage path = .file content) {t : Text}
    (hencode : Utf8.encode t = .ok content) {o : Obstacle} (stops : StopsAt o levels t) :
    ofFile storage path levels = .error (obstacleFault o) := by
  have hread := read_of_stopsAt (stopsAt_unifyLineEnds_iff.mpr stops)
  simp only [ofFile, hfound, ofBytes, Utf8.decode_of_encode hencode, hread]
  cases o <;> rfl

/-- A value that gives settings is an object whose names are last given texts or `null`. -/
theorem not_refused_of_ofValue {t : Text} {v : Value} {settings : Settings}
    (document : Document levels t (.value v)) (h : ofValue path v = .ok settings) : ¬Refused t := by
  intro refused
  cases refused with
  | noDocument none => exact none levels v document
  | noObject document' other =>
    obtain rfl := value_unique document document'
    cases v with
    | object entries => exact other entries rfl
    | _ => cases h
  | @noText n members name w document' last not_null not_text =>
    obtain rfl := value_unique document document'.ofObject
    rw [ofValue] at h
    cases hmembers : ofMembers path (Dictionary.ofList members).entries with
    | ok pairs =>
      have htexts := textsOrNull_iff.mpr (nullOrText_of_ofMembers hmembers)
      rcases htexts name w last with hnull | ⟨u, htext⟩
      · exact not_null hnull
      · exact not_text u htext
    | error fault =>
      rw [hmembers] at h
      cases h

/-- **A file that is refused** is a fault of the configuration. -/
theorem ofFile_of_refused (hfound : storage path = .file content) {t : Text}
    (hencode : Utf8.encode t = .ok content) (refused : Refused t)
    (free : ∀ o, ¬StopsAt o levels t) :
    ∃ fault, ofFile storage path levels = .error fault ∧ fault.category = .configuration := by
  simp only [ofFile, hfound, ofBytes, Utf8.decode_of_encode hencode]
  split
  · next misread hread =>
    obtain ⟨n, -, hlong⟩ := read_eq_integer_iff.mp hread
    exact absurd (stopsAt_unifyLineEnds_iff.mp hlong) (free _)
  · next container hread =>
    exact absurd (stopsAt_unifyLineEnds_iff.mp (read_eq_tooDeep_iff.mp hread)) (free _)
  · exact ⟨_, rfl, rfl⟩
  · next v hread =>
    have hdocument : Document levels t (.value v) :=
      document_unifyLineEnds_iff.mp (read_eq_ok_iff.mp hread)
    cases hvalue : ofValue path v with
    | ok settings => exact absurd refused (not_refused_of_ofValue hdocument hvalue)
    | error fault => exact ⟨fault, rfl, category_of_ofValue hvalue⟩

/-- A file of which no text is the content is not decoded. -/
theorem ofFile_of_not_encode (hfound : storage path = .file content)
    (hencode : ∀ t, Utf8.encode t ≠ .ok content) :
    ∃ m, ofFile storage path levels = .error (.undecodable m) := by
  rw [ofFile, hfound]
  cases hdecode : Utf8.decode content with
  | ok t => exact absurd (Utf8.decode_eq_ok_iff.mp hdecode) (hencode t)
  | error m =>
    refine ⟨m, ?_⟩
    simp only
    rw [ofBytes, hdecode]

/-- What a file with this content comes to, for a reader with so many levels. -/
inductive Outcome (content : Bytes) (levels : Nat) : Except Fault Settings → Prop
  | settings {t : Text} {members : List (Text × Value)} {settings : Settings}
      (written : Utf8.encode t = .ok content) (document : Document levels t (.object members))
      (texts : TextsOrNull members) (gives : Gives members settings) :
      Outcome content levels (.ok settings)
  | refused {t : Text} {fault : Fault} (written : Utf8.encode t = .ok content)
      (refused : Refused t) (free : ∀ o, ¬StopsAt o levels t)
      (category : fault.category = .configuration) : Outcome content levels (.error fault)
  | undecoded {m : Utf8.Malformed} (not_written : ∀ t, Utf8.encode t ≠ .ok content) :
      Outcome content levels (.error (.undecodable m))
  | stopped {t : Text} {o : Obstacle} (written : Utf8.encode t = .ok content)
      (stops : StopsAt o levels t) : Outcome content levels (.error (obstacleFault o))

theorem outcome_ofFile (hfound : storage path = .file content) (levels : Nat) :
    Outcome content levels (ofFile storage path levels) := by
  by_cases hwritten : ∃ t, Utf8.encode t = .ok content
  · obtain ⟨t, written⟩ := hwritten
    obtain ⟨members, document, texts⟩ | ⟨refused, free⟩ | ⟨o, stops⟩ :=
      settings_or_refused_or_stopsAt levels t
    · obtain ⟨settings, hread, gives⟩ := ofFile_of_object hfound written document texts
      rw [hread]
      exact .settings written document texts gives
    · obtain ⟨fault, hread, category⟩ := ofFile_of_refused hfound written refused free
      rw [hread]
      exact .refused written refused free category
    · rw [ofFile_of_stopsAt hfound written stops]
      exact .stopped written stops
  · obtain ⟨m, hread⟩ := ofFile_of_not_encode hfound (not_exists.mp hwritten)
    rw [hread]
    exact .undecoded (not_exists.mp hwritten)

theorem category_obstacleFault (o : Obstacle) : (obstacleFault o).category ≠ .configuration := by
  cases o <;> exact nofun

theorem obstacleFault_injective {o o' : Obstacle} (h : obstacleFault o = obstacleFault o') :
    o = o' := by
  cases o <;> cases o' <;> cases h <;> rfl

/-- Reading a file ends with the fault of an obstacle where that is the first thing that keeps its
text from being read. -/
theorem ofFile_eq_obstacleFault_iff (hfound : storage path = .file content) {o : Obstacle} :
    ofFile storage path levels = .error (obstacleFault o) ↔
      ∃ t, Utf8.encode t = .ok content ∧ StopsAt o levels t := by
  constructor
  · intro hread
    have houtcome := outcome_ofFile hfound levels
    rw [hread] at houtcome
    generalize hfault : obstacleFault o = fault at houtcome
    cases houtcome with
    | refused _ _ _ category => exact absurd (hfault ▸ category) (category_obstacleFault o)
    | undecoded => cases o <;> cases hfault
    | stopped written stops => exact ⟨_, written, obstacleFault_injective hfault ▸ stops⟩
  · rintro ⟨t, written, stops⟩
    exact ofFile_of_stopsAt hfound written stops

/-- **What becomes of a file with any content:** it gives settings, exactly those that its members
say; it is refused, and that is a fault of the configuration; it is not decoded, since it is not in
UTF-8; or it is given up on, at an integer that is too long or a container that stands inside too
many others.  There is nothing else. -/
theorem ofFile_outcomes (hfound : storage path = .file content) (levels : Nat) :
    (∀ settings, ofFile storage path levels = .ok settings ↔
      ∃ t members, Utf8.encode t = .ok content ∧ Document levels t (.object members) ∧
        TextsOrNull members ∧ Gives members settings) ∧
    ((∃ fault, ofFile storage path levels = .error fault ∧ fault.category = .configuration) ↔
      ∃ t, Utf8.encode t = .ok content ∧ Refused t ∧ ∀ o, ¬StopsAt o levels t) ∧
    ((∃ m, ofFile storage path levels = .error (.undecodable m)) ↔
      ∀ t, Utf8.encode t ≠ .ok content) ∧
    (∀ n, ofFile storage path levels = .error (.misreadInteger (.tooLong n)) ↔
      ∃ t, Utf8.encode t = .ok content ∧ StopsAt (.integer n) levels t) ∧
    (∀ container, ofFile storage path levels = .error (.tooDeep container) ↔
      ∃ t, Utf8.encode t = .ok content ∧ StopsAt (.tooDeep container) levels t) ∧
    ∀ fault, ofFile storage path levels = .error fault → fault.category = .configuration ∨
      (∃ m, fault = .undecodable m) ∨ (∃ n, fault = .misreadInteger (.tooLong n)) ∨
      ∃ container, fault = .tooDeep container := by
  have houtcome := outcome_ofFile hfound levels
  refine ⟨fun settings => ⟨fun hread => ?_, ?_⟩, ⟨?_, ?_⟩, ⟨?_, ofFile_of_not_encode hfound⟩,
    fun n => ofFile_eq_obstacleFault_iff (o := .integer n) hfound,
    fun container => ofFile_eq_obstacleFault_iff (o := .tooDeep container) hfound,
    fun fault hread => ?_⟩
  · rw [hread] at houtcome
    cases houtcome with
    | settings written document texts gives => exact ⟨_, _, written, document, texts, gives⟩
  · rintro ⟨t, members, written, document, texts, gives⟩
    obtain ⟨found, hread, hfound⟩ := ofFile_of_object hfound written document texts
    rw [hread, hfound.unique gives]
  · rintro ⟨fault, hread, hcategory⟩
    rw [hread] at houtcome
    cases houtcome with
    | refused written refused free => exact ⟨_, written, refused, free⟩
    | undecoded => cases hcategory
    | stopped => exact absurd hcategory (category_obstacleFault _)
  · rintro ⟨t, written, refused, free⟩
    exact ofFile_of_refused hfound written refused free
  · rintro ⟨m, hread⟩
    rw [hread] at houtcome
    generalize hfault : Fault.undecodable m = fault at houtcome
    cases houtcome with
    | refused _ _ _ category =>
      rw [← hfault] at category
      cases category
    | undecoded not_written => exact not_written
    | @stopped t o => cases o <;> cases hfault
  · rw [hread] at houtcome
    cases houtcome with
    | refused _ _ _ category => exact Or.inl category
    | undecoded => exact Or.inr (Or.inl ⟨_, rfl⟩)
    | @stopped t o =>
      cases o with
      | integer digits => exact Or.inr (Or.inr (Or.inl ⟨digits, rfl⟩))
      | tooDeep container => exact Or.inr (Or.inr (Or.inr ⟨container, rfl⟩))

end Outcomes

/-- A document in which one name comes twice and another one is `null`. -/
def repeatedDocument : Text :=
  "\x7b\"b\":\"x\",\"a\":null,\"c\":\"y\",\"b\":\"z\"\x7d"

def repeatedContent : Bytes := repeatedDocument.flatMap Utf8.encodeChar

def repeatedStorage : Storage := fun _ => .file repeatedContent

/-- The name that comes twice keeps its first place and has its last text. -/
theorem ofFile_outcomes_repeated :
    repeatedStorage "settings.json" = .file repeatedContent ∧
      ∃ t members, Utf8.encode t = .ok repeatedContent ∧
        Document usualLevels t (.object members) ∧
        TextsOrNull members ∧
        Gives members (Dictionary.ofList [("b", some ("z" : Text)), ("c", some ("y" : Text))]) := by
  have hfound : repeatedStorage "settings.json" = .file repeatedContent := rfl
  have hread : ofFile repeatedStorage "settings.json"
      = .ok (Dictionary.ofList [("b", some ("z" : Text)), ("c", some ("y" : Text))]) := by
    decide +kernel
  exact ⟨hfound, ((ofFile_outcomes hfound usualLevels).1 _).mp hread⟩

/-- A byte that stands in no text is neither read nor reported as a fault of the configuration. -/
theorem ofFile_loneByte :
    ∃ fault, ofFile (fun _ => .file [0xFF]) "settings.json" = .error fault ∧
      fault.category ≠ .configuration :=
  ⟨.undecodable ⟨.badStart, 0xFF, 0, 1⟩, by decide +kernel, by decide⟩

end CloudAccess.Configuration
