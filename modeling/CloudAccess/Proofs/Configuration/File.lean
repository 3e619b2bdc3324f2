/-
# Settings from a document

A file that holds one object gives settings, and the settings are what its members say: a name has
the text that it is last given, and has nothing if it is last given `null` (`Gives`).  Names stand
in the order in which they first come.

The document is described as it stands in the file: its line ends make no difference to what it
denotes.  `ofFile_of_flatFile` is the case of a flat document.

A file that gives no settings is reported as such in all but four cases, which are faults of the
storage, of the encoding, of numbers and of the levels that the reader has instead (`Unread`).
-/
import CloudAccess.Proofs.Configuration.LineEnds
import CloudAccess.Proofs.Text.Utf8

namespace CloudAccess.Configuration

open Json

/-! ## 1. Settings -/

/-- A value that is a text. -/
def textOf? : Value → Option Text
  | .text t => some t
  | _ => none

theorem textOf?_eq_some_iff {v : Value} {t : Text} : textOf? v = some t ↔ v = .text t := by
  cases v <;> simp [textOf?]

/-- **A file of settings as it is written:** a flat document in UTF-8, in which every name is last
given a text or `null`. -/
structure FlatFile (content : Bytes) (members : List (Text × Value)) : Prop where
  document : ∃ t, Utf8.encode t = .ok content ∧ FlatObject t members
  settings : ∀ name v, IsLast (fun p => p.1 = name) members (name, v) →
    v = .null ∨ ∃ t, v = .text t

theorem ofMembers_eq_ok {source : Text} {members : List (Text × Value)}
    (h : ∀ p ∈ members, p.2 = .null ∨ ∃ t, p.2 = .text t) :
    ofMembers source members
      = .ok (members.filterMap fun p => (textOf? p.2).map fun t => (p.1, t)) := by
  induction members with
  | nil => rfl
  | cons p rest ih =>
    obtain ⟨name, v⟩ := p
    obtain ⟨hv, hrest⟩ := List.forall_mem_cons.mp h
    rcases hv with rfl | ⟨t, rfl⟩
    · rw [ofMembers, ih hrest]
      rfl
    · rw [ofMembers, ih hrest]
      rfl

theorem nullOrText_of_ofMembers {source : Text} {members : List (Text × Value)}
    {pairs : List (Text × Text)} (h : ofMembers source members = .ok pairs) :
    ∀ p ∈ members, p.2 = .null ∨ ∃ t, p.2 = .text t := by
  induction members generalizing pairs with
  | nil => exact nofun
  | cons p rest ih =>
    obtain ⟨name, v⟩ := p
    rw [List.forall_mem_cons]
    cases v with
    | null => exact ⟨Or.inl rfl, ih h⟩
    | text t =>
      rw [ofMembers] at h
      cases hrest : ofMembers source rest with
      | ok others => exact ⟨Or.inr ⟨t, rfl⟩, ih hrest⟩
      | error fault =>
        rw [hrest] at h
        cases h
    | _ => cases h

/-- Every name is last given a text or `null`. -/
def TextsOrNull (members : List (Text × Value)) : Prop :=
  ∀ name v, IsLast (fun p => p.1 = name) members (name, v) → v = .null ∨ ∃ t, v = .text t

/-- **What members say:** the settings are the names that are last given a text, each with that
text, in the order in which the names first come. -/
structure Gives (members : List (Text × Value)) (settings : Settings) : Prop where
  found : ∀ key v, settings.get? key = some v ↔
    ∃ t, v = some t ∧ IsLast (fun p => p.1 = key) members (key, .text t)
  order : settings.keys.Pairwise fun a b =>
    (Entries.keys members).idxOf a < (Entries.keys members).idxOf b

theorem textsOrNull_iff {members : List (Text × Value)} : TextsOrNull members ↔
    ∀ p ∈ (Dictionary.ofList members).entries, p.2 = .null ∨ ∃ t, p.2 = .text t := by
  simp only [TextsOrNull, ← Dictionary.get?_ofList_eq_some_iff, Dictionary.get?_eq_some_iff_mem,
    Prod.forall]

/-- **An object whose names are last given texts or `null` gives settings.** -/
theorem ofValue_of_textsOrNull {members : List (Text × Value)} (h : TextsOrNull members)
    (source : Text) : ∃ settings,
      ofValue source (.object (Dictionary.ofList members).entries) = .ok settings ∧
        Gives members settings := by
  have hentries := textsOrNull_iff.mp h
  have hnodup := (Dictionary.ofList members).nodup
  have horder := Dictionary.pairwise_keys_ofList members
  -- the texts among the members, as settings
  have htexts : ∀ entries : List (Text × Value),
      (entries.filterMap fun p => (textOf? p.2).map fun t => (p.1, t)).map
        (fun p => (p.1, some p.2))
      = entries.filterMap fun p => ((textOf? p.2).map some).map fun v => (p.1, v) := by
    intro entries
    rw [List.map_filterMap]
    simp only [Option.map_map]
    rfl
  refine ⟨Dictionary.ofList ((Dictionary.ofList members).entries.filterMap fun p =>
    ((textOf? p.2).map some).map fun v => (p.1, v)), ?_, ⟨fun key v => ?_, ?_⟩⟩
  · rw [ofValue, ofMembers_eq_ok hentries, ← htexts]
    rfl
  · have hget := Dictionary.get?_ofList_of_nodup
      (Entries.nodup_keys_filterMap hnodup fun v => (textOf? v).map some) key
    rw [Entries.find?_filterMap hnodup fun v => (textOf? v).map some] at hget
    rw [hget]
    change ((Dictionary.ofList members).get? key).bind _ = _ ↔ _
    simp only [Option.bind_eq_some_iff, Dictionary.get?_ofList_eq_some_iff, Option.map_eq_some_iff,
      textOf?_eq_some_iff]
    constructor
    · rintro ⟨value, hvalue, t, rfl, rfl⟩
      exact ⟨t, rfl, hvalue⟩
    · rintro ⟨t, rfl, ht⟩
      exact ⟨.text t, ht, t, rfl, rfl⟩
  · have hkept := Dictionary.entries_ofList_of_nodup
      (Entries.nodup_keys_filterMap hnodup fun v => (textOf? v).map some)
    rw [Dictionary.keys, hkept]
    exact horder.sublist (Entries.keys_filterMap_sublist _ fun v => (textOf? v).map some)

/-- What is read of a document does not depend on its line ends. -/
theorem read_unifyLineEnds_of_object {levels : Nat} {t : Text} {members : List (Text × Value)}
    (h : Document levels t (.object members)) :
    read (unifyLineEnds t) levels = .ok (.object (Dictionary.ofList members).entries) :=
  read_of_document (document_unifyLineEnds_iff.mpr h.ofObject)

/-- **A file of settings is read.** -/
theorem ofFile_of_object {storage : Storage} {path : Text} {content : Bytes} {t : Text}
    {levels : Nat} {members : List (Text × Value)} (hcontent : storage path = .file content)
    (hencode : Utf8.encode t = .ok content) (document : Document levels t (.object members))
    (texts : TextsOrNull members) :
    ∃ settings, ofFile storage path levels = .ok settings ∧ Gives members settings := by
  obtain ⟨settings, hvalue, hgives⟩ := ofValue_of_textsOrNull texts path
  refine ⟨settings, ?_, hgives⟩
  rw [ofFile, hcontent]
  simp only
  rw [ofBytes, Utf8.decode_of_encode hencode]
  simp only [read_unifyLineEnds_of_object document]
  exact hvalue

/-- **A flat file of settings is read** where there is a level for its object, and its settings are
what its names are last given. -/
theorem ofFile_of_flatFile {storage : Storage} {path : Text} {content : Bytes}
    {members : List (Text × Value)} (hcontent : storage path = .file content)
    (h : FlatFile content members) (n : Nat) :
    ∃ settings, ofFile storage path (n + 1) = .ok settings ∧ ∀ key v, settings.get? key = some v ↔
      ∃ t, v = some t ∧ IsLast (fun p => p.1 = key) members (key, .text t) := by
  obtain ⟨document, hencode, hflat⟩ := h.document
  obtain ⟨settings, hread, hgives⟩ :=
    ofFile_of_object hcontent hencode (hflat.document n) h.settings
  exact ⟨settings, hread, hgives.found⟩

/-- Without any level, no flat file is read. -/
theorem ofFile_of_flatFile_zero {storage : Storage} {path : Text} {content : Bytes}
    {members : List (Text × Value)} (hcontent : storage path = .file content)
    (h : FlatFile content members) :
    ofFile storage path 0 = .error (.tooDeep .object) := by
  obtain ⟨document, hencode, hflat⟩ := h.document
  have hstops : StopsAt (.tooDeep .object) 0 document := by
    cases hflat with
    | empty blank₁ => exact .intro blank₁ (.noObjectLevel rfl)
    | members blank₁ => exact .intro blank₁ (.noObjectLevel rfl)
  have hread := read_eq_tooDeep_iff.mpr (stopsAt_unifyLineEnds_iff.mpr hstops)
  simp only [ofFile, hcontent, ofBytes, Utf8.decode_of_encode hencode, hread]

/-! ## 2. Files that are not read -/

/-- The faults of reading a file that have no report of their own. -/
inductive Unread (storage : Storage) (path : Text) (levels : Nat) : Fault → Prop where
  /-- The file is there and cannot be opened. -/
  | unreadable {problem : Storage.Problem} (hfound : storage path = .unreadable problem) :
    Unread storage path levels (.unreadable problem)
  /-- The file is not in UTF-8. -/
  | undecodable {content : Bytes} {m : Utf8.Malformed} (hfound : storage path = .file content)
      (hdecode : Utf8.decode content = .error m) : Unread storage path levels (.undecodable m)
  /-- The file holds an integer that is too long to be read. -/
  | integer {content : Bytes} {t : Text} {misread : Integer.Misread}
      (hfound : storage path = .file content) (hdecode : Utf8.decode content = .ok t)
      (hread : Json.read (unifyLineEnds t) levels = .error (.integer misread)) :
    Unread storage path levels (.misreadInteger misread)
  /-- The file holds a container for which there is no level left. -/
  | tooDeep {content : Bytes} {t : Text} {container : Container}
      (hfound : storage path = .file content) (hdecode : Utf8.decode content = .ok t)
      (hread : Json.read (unifyLineEnds t) levels = .error (.tooDeep container)) :
    Unread storage path levels (.tooDeep container)

section Unread

variable {storage : Storage} {path : Text} {levels : Nat} {fault : Fault}

theorem Unread.not_isReported (h : Unread storage path levels fault) :
    fault.category.isReported = false := by
  cases h <;> rfl

theorem Unread.ofFile (h : Unread storage path levels fault) :
    ofFile storage path levels = .error fault := by
  cases h with
  | unreadable hfound => rw [Configuration.ofFile, hfound]
  | undecodable hfound hdecode =>
    rw [Configuration.ofFile, hfound]
    simp only [ofBytes, hdecode]
  | integer hfound hdecode hread =>
    rw [Configuration.ofFile, hfound]
    simp only [ofBytes, hdecode, hread]
  | tooDeep hfound hdecode hread =>
    rw [Configuration.ofFile, hfound]
    simp only [ofBytes, hdecode, hread]

theorem category_of_ofMembers {source : Text} {members : List (Text × Value)}
    (h : ofMembers source members = .error fault) : fault.category = .configuration := by
  induction members generalizing fault with
  | nil => cases h
  | cons p rest ih =>
    obtain ⟨name, value⟩ := p
    cases value with
    | null => exact ih h
    | text t =>
      rw [ofMembers] at h
      cases hrest : ofMembers source rest with
      | ok pairs =>
        rw [hrest] at h
        cases h
      | error inner =>
        rw [hrest] at h
        cases h
        exact ih hrest
    | _ =>
      cases h
      rfl

/-- A value that gives no settings is a fault of the configuration. -/
theorem category_of_ofValue {source : Text} {value : Value}
    (h : ofValue source value = .error fault) : fault.category = .configuration := by
  cases value with
  | object members =>
    rw [ofValue] at h
    cases hmembers : ofMembers source members with
    | ok pairs =>
      rw [hmembers] at h
      cases h
    | error inner =>
      rw [hmembers] at h
      cases h
      exact category_of_ofMembers hmembers
  | _ =>
    cases h
    rfl

/-- **A file that is not read is reported,** unless it is one of these four. -/
theorem unread_of_ofFile (h : Configuration.ofFile storage path levels = .error fault)
    (hfault : fault.category.isReported = false) : Unread storage path levels fault := by
  rw [ofFile] at h
  split at h
  · cases h
    cases hfault
  · next problem hfound =>
    cases h
    exact .unreadable hfound
  · next content hfound =>
    rw [ofBytes] at h
    split at h
    · next m hdecode =>
      cases h
      exact .undecodable hfound hdecode
    · next t hdecode =>
      split at h
      · next misread hread =>
        cases h
        exact .integer hfound hdecode hread
      · next container hread =>
        cases h
        exact .tooDeep hfound hdecode hread
      · cases h
        cases hfault
      · rw [category_of_ofValue h] at hfault
        cases hfault

end Unread

end CloudAccess.Configuration
