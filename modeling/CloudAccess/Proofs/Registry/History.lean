/-
# What a history of registrations leaves behind

A registry is filled by offers: a component, or none, under a name of a kind.  An offer is accepted
or rejected, and the registry goes on from there.  What is found in it afterwards depends on the
offers made under the name that is looked up and on nothing else: the first component among them
has the name, and as long as there has been none, the name is free.

`get?_after` is this law for the entries, by induction on the history; its step is `get?_offer`,
which says the same of a single offer, accepted or not.  `first_component_keeps_name` reads off
what can be asked of a registry: what a name resolves to, which names there are, and which offers
are rejected.
-/
import Mathlib.Data.List.Induction
import CloudAccess.Proofs.Text.Order
import CloudAccess.Registry

namespace CloudAccess.Registry

/-! ## 1. Kinds and their names -/

theorem Kind.name_injective {k l : Kind} (h : k.name = l.name) : k = l := by
  cases k <;> cases l <;> first | rfl | exact absurd h (by decide)

/-- A kind goes by its name and by no other. -/
theorem Kind.ofName?_eq_some_iff {t : Text} {k : Kind} : ofName? t = some k ↔ t = k.name := by
  constructor
  · intro h
    have hname := List.find?_some h
    exact (decide_eq_true_eq.mp hname).symm
  · rintro rfl
    cases k <;> decide

/-! ## 2. Offers -/

/-- A component, or none, that is to be registered under a name of a kind. -/
structure Offer where
  kind : Text
  name : Text
  target : Option Component
deriving DecidableEq

/-- An offer is made under a name of a kind. -/
def Offer.isUnder (kind name : Text) (o : Offer) : Bool := o.kind = kind && o.name = name

theorem Offer.isUnder_iff {kind name : Text} {o : Offer} :
    o.isUnder kind name = true ↔ o.kind = kind ∧ o.name = name := by
  rw [isUnder, Bool.and_eq_true, decide_eq_true_eq, decide_eq_true_eq]

/-- The fault with which a registry rejects an offer, if it does. -/
def rejection? (r : Registry) (o : Offer) : Option Fault :=
  match r.register o.kind o.name o.target with
  | .ok _ => none
  | .error fault => some fault

/-- The registry after an offer.  One that is rejected leaves it as it was. -/
def offer (r : Registry) (o : Offer) : Registry :=
  match r.register o.kind o.name o.target with
  | .ok filled => filled
  | .error _ => r

/-- The registry after a history of offers. -/
def after (r : Registry) (history : List Offer) : Registry := history.foldl offer r

/-- What has been offered under a name of a kind, in order. -/
def offered (history : List Offer) (kind name : Text) : List (Option Component) :=
  (history.filter (Offer.isUnder kind name)).map Offer.target

/-- The first component among what has been offered. -/
def firstComponent? (targets : List (Option Component)) : Option Component := targets.findSome? id

/-! ## 3. What one offer does -/

theorem get?_bind (r : Registry) (k l : Kind) (name other : Text) (target : Option Component) :
    ((r.bind k name target).entries l).get? other
      = if l = k ∧ name = other then some target else (r.entries l).get? other := by
  rw [bind]
  by_cases hl : l = k
  · simp only [hl, if_true, Dictionary.get?_insert, true_and]
  · simp only [hl, if_false, false_and]

/-- **Why an offer is rejected.**  Either there is no such kind, or another component has the
name. -/
theorem rejection?_eq_some_iff {r : Registry} {o : Offer} {fault : Fault} :
    r.rejection? o = some fault ↔
      (Kind.ofName? o.kind = none ∧ fault = .unknownKind o.kind) ∨
      ∃ k holder, Kind.ofName? o.kind = some k ∧ r.holder? k o.name = some holder ∧
        o.target ≠ some holder ∧ fault = .alreadyRegistered o.kind o.name holder.shown := by
  rw [rejection?, register]
  cases hkind : Kind.ofName? o.kind with
  | none => simp [eq_comm]
  | some k =>
    cases hholder : r.holder? k o.name with
    | none => simp [hholder]
    | some holder =>
      by_cases htarget : o.target = some holder
      · simp [htarget, hholder]
      · simp [htarget, hholder, eq_comm]

/-- A rejected offer leaves the registry as it was. -/
theorem offer_of_rejection? {r : Registry} {o : Offer} {fault : Fault}
    (h : r.rejection? o = some fault) : r.offer o = r := by
  rw [rejection?] at h
  rw [offer]
  split at h
  · cases h
  · rfl

/-- An accepted offer binds its name. -/
theorem offer_of_accepted {r : Registry} {o : Offer} (h : r.rejection? o = none) :
    ∃ k, Kind.ofName? o.kind = some k ∧ r.offer o = r.bind k o.name o.target ∧
      ∀ holder, r.holder? k o.name = some holder → o.target = some holder := by
  rw [rejection?, register] at h
  rw [offer, register]
  cases hkind : Kind.ofName? o.kind with
  | none => simp [hkind] at h
  | some k =>
    refine ⟨k, rfl, ?_⟩
    cases hholder : r.holder? k o.name with
    | none => exact ⟨by simp [hholder], fun _ hnone => nomatch hnone⟩
    | some holder =>
      have htarget : o.target = some holder := by
        by_cases htarget : o.target = some holder
        · exact htarget
        · simp [hkind, hholder, htarget] at h
      refine ⟨by simp [hholder, htarget], fun other hother => ?_⟩
      rw [htarget, hother]

/-- **What one offer does to the entries.**  Under its own name it adds what it offers behind the
component that is there; every other entry stays. -/
theorem get?_offer (r : Registry) (o : Offer) (k : Kind) (name : Text) :
    ((r.offer o).entries k).get? name
      = if o.isUnder k.name name then some ((r.holder? k name).or o.target)
        else (r.entries k).get? name := by
  cases hrejection : r.rejection? o with
  | some fault =>
    rw [offer_of_rejection? hrejection]
    split
    · next hunder =>
      obtain ⟨hkind, rfl⟩ := Offer.isUnder_iff.mp hunder
      have hknown : Kind.ofName? o.kind = some k := Kind.ofName?_eq_some_iff.mpr hkind
      rcases rejection?_eq_some_iff.mp hrejection with ⟨hnone, -⟩ | ⟨l, holder, hl, hholder, -, -⟩
      · rw [hknown] at hnone
        cases hnone
      · rw [hknown] at hl
        cases hl
        rw [hholder, Option.some_or]
        exact Option.join_eq_some_iff.mp hholder
    · rfl
  | none =>
    obtain ⟨l, hl, hoffer, hholder⟩ := offer_of_accepted hrejection
    rw [hoffer, get?_bind]
    have hiff : (k = l ∧ o.name = name) ↔ o.isUnder k.name name = true := by
      rw [Offer.isUnder_iff, Kind.ofName?_eq_some_iff.mp hl]
      exact and_congr_left' ⟨fun h => by rw [h], fun h => (Kind.name_injective h).symm⟩
    by_cases hunder : o.isUnder k.name name = true
    · obtain ⟨rfl, rfl⟩ := hiff.mpr hunder
      rw [if_pos ⟨rfl, rfl⟩, if_pos hunder]
      cases hheld : r.holder? k o.name with
      | none => rw [Option.none_or]
      | some holder => rw [hholder holder hheld, Option.some_or]
    · rw [if_neg fun h => hunder (hiff.mp h), if_neg hunder]

/-! ## 4. What a history leaves behind -/

theorem offered_append (first second : List Offer) (kind name : Text) :
    offered (first ++ second) kind name = offered first kind name ++ offered second kind name := by
  rw [offered, List.filter_append, List.map_append]
  rfl

theorem after_append (r : Registry) (first second : List Offer) :
    r.after (first ++ second) = (r.after first).after second := List.foldl_append

/-- **What a history leaves under a name.**  A name that has been offered is there, with the first
component that was offered under it, if any was. -/
theorem get?_after (history : List Offer) (k : Kind) (name : Text) :
    ((empty.after history).entries k).get? name
      = if (offered history k.name name).isEmpty then none
        else some (firstComponent? (offered history k.name name)) := by
  induction history using List.reverseRecOn with
  | nil => rfl
  | append_singleton history o ih =>
    have hlast : empty.after (history ++ [o]) = (empty.after history).offer o := by
      rw [after_append]
      rfl
    rw [hlast, get?_offer, offered_append]
    by_cases hunder : o.isUnder k.name name = true
    · have hone : offered [o] k.name name = [o.target] := by simp [offered, hunder]
      rw [if_pos hunder, hone, holder?, ih, firstComponent?, firstComponent?,
        List.findSome?_append]
      cases hoffered : offered history k.name name with
      | nil => simp
      | cons target targets => simp
    · have hnil : offered [o] k.name name = [] := by simp [offered, hunder]
      rw [if_neg hunder, hnil, List.append_nil, ih]

theorem holder?_after (history : List Offer) (k : Kind) (name : Text) :
    (empty.after history).holder? k name = firstComponent? (offered history k.name name) := by
  rw [holder?, get?_after]
  cases offered history k.name name with
  | nil => rfl
  | cons target targets => rfl

/-! ## 5. Which names are there -/

theorem offered_eq_nil_iff {history : List Offer} {kind name : Text} :
    offered history kind name = [] ↔ ∀ o ∈ history, o.isUnder kind name = false := by
  rw [offered, List.map_eq_nil_iff, List.filter_eq_nil_iff]
  simp only [Bool.not_eq_true]

theorem mem_keys_after {history : List Offer} {k : Kind} {name : Text} :
    name ∈ ((empty.after history).entries k).keys ↔ offered history k.name name ≠ [] := by
  rw [← Dictionary.contains_iff, Dictionary.contains, get?_after]
  cases offered history k.name name with
  | nil => simp
  | cons target targets => simp

/-- **The first offer under a name is accepted**, whatever it offers. -/
theorem exists_accepted_iff {history : List Offer} {k : Kind} {name : Text} :
    offered history k.name name ≠ [] ↔
      ∃ before o rest, history = before ++ o :: rest ∧ o.kind = k.name ∧ o.name = name ∧
        (empty.after before).rejection? o = none := by
  constructor
  · intro hoffered
    cases hfirst : history.find? (Offer.isUnder k.name name) with
    | none =>
      have hall : ∀ o ∈ history, o.isUnder k.name name = false := by
        simpa only [Bool.not_eq_true] using List.find?_eq_none.mp hfirst
      exact absurd (offered_eq_nil_iff.mpr hall) hoffered
    | some o =>
      obtain ⟨hunder, before, rest, hhistory, hbefore⟩ :=
        List.find?_eq_some_iff_append.mp hfirst
      obtain ⟨hkind, rfl⟩ := Offer.isUnder_iff.mp hunder
      refine ⟨before, o, rest, hhistory, hkind, rfl, ?_⟩
      have hnothing : offered before k.name o.name = [] :=
        offered_eq_nil_iff.mpr fun earlier hearlier => by simpa using hbefore earlier hearlier
      cases hrejection : (empty.after before).rejection? o with
      | none => rfl
      | some fault =>
        have hknown : Kind.ofName? o.kind = some k := Kind.ofName?_eq_some_iff.mpr hkind
        rcases rejection?_eq_some_iff.mp hrejection with ⟨hnone, -⟩ | ⟨l, holder, hl, hholder, -, -⟩
        · rw [hknown] at hnone
          cases hnone
        · rw [hknown] at hl
          cases hl
          rw [holder?_after, hnothing] at hholder
          cases hholder
  · rintro ⟨before, o, rest, rfl, hkind, hname, -⟩ hnil
    have hunder := offered_eq_nil_iff.mp hnil o (by simp)
    rw [Offer.isUnder_iff.mpr ⟨hkind, hname⟩] at hunder
    cases hunder

/-! ## 6. What a registry answers after a history -/

theorem resolve_after (history : List Offer) (kind name : Text) (provider? key? : Option Text) :
    (empty.after history).resolve kind name provider? key?
      = if (Kind.ofName? kind).isSome ∧ offered history kind name ≠ [] then
          .ok (firstComponent? (offered history kind name))
        else .error (.unregistered kind name provider? key?) := by
  rw [resolve]
  cases hkind : Kind.ofName? kind with
  | none => rfl
  | some k =>
    obtain rfl := Kind.ofName?_eq_some_iff.mp hkind
    rw [Option.bind_some, get?_after]
    cases offered history k.name name with
    | nil => rfl
    | cons target targets => rfl

/-- The names of a kind lie one below the other, and are those that are there. -/
theorem names_after (history : List Offer) (k : Kind) :
    ∃ names, (empty.after history).names k.name = .ok names ∧
      (names.Pairwise fun s t => s.numbers < t.numbers) ∧
      ∀ name, name ∈ names ↔ offered history k.name name ≠ [] := by
  have hknown : Kind.ofName? k.name = some k := Kind.ofName?_eq_some_iff.mpr rfl
  refine ⟨((empty.after history).entries k).keys.mergeSort Text.le, ?_, ?_, fun name => ?_⟩
  · rw [names, hknown]
  · exact Text.pairwise_lt_mergeSort ((empty.after history).entries k).nodup
  · rw [List.mem_mergeSort, mem_keys_after]

/-- **An offer is rejected** if there is no such kind, or if the first component that was offered
under the name is another one. -/
theorem isSome_rejection?_after_iff {before : List Offer} {o : Offer} :
    ((empty.after before).rejection? o).isSome = true ↔
      Kind.ofName? o.kind = none ∨
        ∃ holder, firstComponent? (offered before o.kind o.name) = some holder ∧
          o.target ≠ some holder := by
  rw [Option.isSome_iff_exists]
  constructor
  · rintro ⟨fault, hrejection⟩
    rcases rejection?_eq_some_iff.mp hrejection with
      ⟨hnone, -⟩ | ⟨k, holder, hkind, hholder, htarget, -⟩
    · exact Or.inl hnone
    · rw [holder?_after, ← Kind.ofName?_eq_some_iff.mp hkind] at hholder
      exact Or.inr ⟨holder, hholder, htarget⟩
  · rintro (hnone | ⟨holder, hholder, htarget⟩)
    · exact ⟨_, rejection?_eq_some_iff.mpr (Or.inl ⟨hnone, rfl⟩)⟩
    · cases hkind : Kind.ofName? o.kind with
      | none => exact ⟨_, rejection?_eq_some_iff.mpr (Or.inl ⟨hkind, rfl⟩)⟩
      | some k =>
        rw [Kind.ofName?_eq_some_iff.mp hkind, ← holder?_after] at hholder
        exact ⟨_, rejection?_eq_some_iff.mpr (Or.inr ⟨k, holder, hkind, hholder, htarget, rfl⟩)⟩

theorem category_of_rejection? {r : Registry} {o : Offer} {fault : Fault}
    (h : r.rejection? o = some fault) : fault.category = .value := by
  rcases rejection?_eq_some_iff.mp h with ⟨-, rfl⟩ | ⟨k, holder, -, -, -, rfl⟩
  · rfl
  · rfl

/-- **The first component that is offered under a name keeps it**, whatever is offered later, under
this name or any other.  A name resolves to that component, or to none if none was ever offered;
the names of a kind are those under which an offer was accepted; and an offer is rejected, as a
value out of its domain, exactly if its kind is unknown or another component has the name.  A
rejected offer could as well not have been made. -/
theorem first_component_keeps_name (history : List Offer) :
    (∀ kind name provider? key?, (empty.after history).resolve kind name provider? key?
      = if (Kind.ofName? kind).isSome ∧ offered history kind name ≠ [] then
          .ok (firstComponent? (offered history kind name))
        else .error (.unregistered kind name provider? key?)) ∧
    (∀ k : Kind, ∃ names, (empty.after history).names k.name = .ok names ∧
      (names.Pairwise fun s t => s.numbers < t.numbers) ∧
      ∀ name, name ∈ names ↔ ∃ before o rest, history = before ++ o :: rest ∧
        o.kind = k.name ∧ o.name = name ∧ (empty.after before).rejection? o = none) ∧
    (∀ before o rest, history = before ++ o :: rest →
      (((empty.after before).rejection? o).isSome = true ↔
        Kind.ofName? o.kind = none ∨
          ∃ holder, firstComponent? (offered before o.kind o.name) = some holder ∧
            o.target ≠ some holder) ∧
      ∀ fault, (empty.after before).rejection? o = some fault →
        fault.category = .value ∧ empty.after history = empty.after (before ++ rest)) := by
  refine ⟨resolve_after history, fun k => ?_, ?_⟩
  · obtain ⟨names, hnames, hsorted, hmem⟩ := names_after history k
    exact ⟨names, hnames, hsorted, fun name => (hmem name).trans exists_accepted_iff⟩
  · rintro before o rest rfl
    refine ⟨isSome_rejection?_after_iff, fun fault hfault => ⟨category_of_rejection? hfault, ?_⟩⟩
    have hsame : (empty.after before).after (o :: rest)
        = ((empty.after before).offer o).after rest := rfl
    rw [after_append, after_append, hsame, offer_of_rejection? hfault]

/-- Nothing is offered under a name, then a component, then another one; the other one is offered
under the same name of a second kind; and one offer is of no kind. -/
def contestedHistory : List Offer := [
  ⟨"capability", "b", none⟩,
  ⟨"capability", "b", some .s3Client⟩,
  ⟨"capability", "b", some .shareUrls⟩,
  ⟨"contextbuilder", "b", some .shareUrls⟩,
  ⟨"module", "c", some .s3Client⟩,
  ⟨"capability", "a", none⟩]

/-- The first component has the contested name, and the offer of the other one is rejected. -/
theorem contestedHistory_keeps_first :
    (empty.after contestedHistory).resolve "capability" "b" none none = .ok (some .s3Client) ∧
      (empty.after contestedHistory).resolve "contextbuilder" "b" none none
        = .ok (some .shareUrls) ∧
      (empty.after contestedHistory).resolve "capability" "a" none none = .ok none ∧
      (empty.after contestedHistory).resolve "module" "c" none none
        = .error (.unregistered "module" "c" none none) ∧
      ((empty.after (contestedHistory.take 2)).rejection?
        ⟨"capability", "b", some .shareUrls⟩).isSome = true := by
  obtain ⟨hresolve, -, hreject⟩ := first_component_keeps_name contestedHistory
  refine ⟨?_, ?_, ?_, ?_, ?_⟩
  · rw [hresolve]
    decide
  · rw [hresolve]
    decide
  · rw [hresolve]
    decide
  · rw [hresolve]
    decide
  · have hcontested := (hreject (contestedHistory.take 2) _ (contestedHistory.drop 3) rfl).1
    exact hcontested.mpr (Or.inr ⟨.s3Client, by decide, by decide⟩)

end CloudAccess.Registry
