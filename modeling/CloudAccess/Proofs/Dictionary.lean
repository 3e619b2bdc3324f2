/-
# Dictionaries by what is found in them

Each way of making one dictionary from others is described by what `get?` finds afterwards.  Two
dictionaries in one (`get?_merge`) are looked up like two layers, the upper one first.
-/
import CloudAccess.Dictionary
import Mathlib.Data.List.Forall2
import Mathlib.Data.List.Induction
import Mathlib.Data.List.Nodup

namespace CloudAccess

variable {α : Type}

/-! ## 1. The last of a row -/

/-- `a` is the last of a row that has a property. -/
def IsLast {β : Type} (p : β → Prop) (row : List β) (a : β) : Prop :=
  ∃ before after, row = before ++ a :: after ∧ p a ∧ ∀ b ∈ after, ¬p b

theorem find?_reverse_eq_some_iff {β : Type} {p : β → Prop} [DecidablePred p] {row : List β}
    {a : β} : row.reverse.find? (fun b => p b) = some a ↔ IsLast p row a := by
  rw [List.find?_eq_some_iff_append]
  constructor
  · rintro ⟨ha, after, before, hrow, hafter⟩
    refine ⟨before.reverse, after.reverse, ?_, of_decide_eq_true ha, fun b hb => ?_⟩
    · rw [← List.reverse_reverse row, hrow]
      simp
    · simpa using hafter b (List.mem_reverse.mp hb)
  · rintro ⟨before, after, rfl, ha, hafter⟩
    refine ⟨decide_eq_true ha, after.reverse, before.reverse, by simp, fun b hb => ?_⟩
    simpa using hafter b (List.mem_reverse.mp hb)

theorem IsLast.congr {β : Type} {p q : β → Prop} (h : ∀ b, p b ↔ q b) {row : List β} {a : β} :
    IsLast p row a ↔ IsLast q row a := by
  rw [funext fun b => propext (h b)]

/-- The last of the images is the image of the last that has one. -/
theorem isLast_filterMap_iff {β γ : Type} {f : β → Option γ} {p : γ → Prop} {row : List β}
    {c : γ} :
    IsLast p (row.filterMap f) c ↔ ∃ b, IsLast (fun b => ∃ c ∈ f b, p c) row b ∧ f b = some c := by
  classical
  have hany : ∀ b, (f b).any (fun c => p c) = decide (∃ c ∈ f b, p c) := by
    intro b
    cases f b <;> simp
  rw [← find?_reverse_eq_some_iff, ← List.filterMap_reverse, List.find?_filterMap,
    Option.bind_eq_some_iff]
  simp only [hany, find?_reverse_eq_some_iff]

/-- What is left out of a row without repetition does not matter if it has no image. -/
theorem filterMap_eq_of_sublist {β γ : Type} {f : β → Option γ} {fewer row : List β}
    (hfewer : fewer.Sublist row) (hnodup : row.Nodup)
    (h : ∀ b ∈ row, (f b).isSome → b ∈ fewer) : fewer.filterMap f = row.filterMap f := by
  induction hfewer with
  | slnil => rfl
  | @cons fewer row b hsub ih =>
    rw [List.nodup_cons] at hnodup
    have hb : f b = none := by
      rw [← Option.not_isSome_iff_eq_none]
      exact fun hsome => hnodup.1 (hsub.subset (h b List.mem_cons_self hsome))
    rw [List.filterMap_cons_none hb]
    exact ih hnodup.2 fun a ha => h a (List.mem_cons_of_mem _ ha)
  | @cons_cons fewer row b hsub ih =>
    rw [List.nodup_cons] at hnodup
    have hrest := ih hnodup.2 fun a ha hsome => by
      rcases List.mem_cons.mp (h a (List.mem_cons_of_mem _ ha) hsome) with rfl | hmem
      · exact absurd ha hnodup.1
      · exact hmem
    rw [List.filterMap_cons, List.filterMap_cons, hrest]

/-- A row without repetition has nothing to be left out. -/
theorem eraseDups_of_nodup {β : Type} [BEq β] [LawfulBEq β] {row : List β} (h : row.Nodup) :
    row.eraseDups = row := by
  induction row with
  | nil => rfl
  | cons b rest ih =>
    rw [List.nodup_cons] at h
    have hrest : rest.filter (fun a => !a == b) = rest := by
      rw [List.filter_eq_self]
      intro a ha
      have hne : a ≠ b := fun heq => h.1 (heq ▸ ha)
      simp [hne]
    rw [List.eraseDups_cons, hrest, ih h.2]

/-! ## 2. Lists of entries -/

namespace Entries

theorem find?_filter_ne (key other : Text) (entries : List (Text × α)) :
    find? other (entries.filter fun (k, _) => k ≠ key)
      = if key = other then none else find? other entries := by
  induction entries with
  | nil => simp [find?]
  | cons entry rest ih =>
    obtain ⟨k, v⟩ := entry
    rw [List.filter_cons, find?]
    by_cases hk : k = key
    · rw [if_neg (by simp [hk]), ih]
      by_cases hother : key = other
      · simp [hother]
      · simp [hk, hother]
    · rw [if_pos (by simp [hk]), find?, ih]
      by_cases hother : key = other
      · simp [← hother, hk]
      · simp [hother]

/-- Where keys are distinct, values can be changed or taken away one by one. -/
theorem find?_filterMap {β : Type} {entries : List (Text × α)} (h : (keys entries).Nodup)
    (f : α → Option β) (key : Text) :
    find? key (entries.filterMap fun e => (f e.2).map fun value => (e.1, value))
      = (find? key entries).bind f := by
  induction entries with
  | nil => rfl
  | cons entry rest ih =>
    obtain ⟨k, v⟩ := entry
    have hcons : (k :: keys rest).Nodup := h
    rw [List.nodup_cons] at hcons
    rw [List.filterMap_cons, find?]
    by_cases hk : k = key
    · rw [if_pos hk, Option.bind_some]
      cases hv : f v with
      | some value => exact if_pos hk
      | none =>
        have hnone : find? key rest = none := by
          rw [← Option.not_isSome_iff_eq_none, find?_isSome_iff, ← hk]
          exact hcons.1
        simp only [Option.map_none]
        rw [ih hcons.2, hnone]
        rfl
    · rw [if_neg hk, ← ih hcons.2]
      cases f v with
      | some value => exact if_neg hk
      | none => rfl

/-- Keys stay in their order where values are taken away. -/
theorem keys_filterMap_sublist {β : Type} (entries : List (Text × α)) (f : α → Option β) :
    (keys (entries.filterMap fun e => (f e.2).map fun value => (e.1, value))).Sublist
      (keys entries) := by
  induction entries with
  | nil => exact List.Sublist.refl _
  | cons entry rest ih =>
    rw [List.filterMap_cons]
    cases f entry.2 with
    | none => exact ih.cons _
    | some value => exact ih.cons_cons _

theorem nodup_keys_filterMap {β : Type} {entries : List (Text × α)} (h : (keys entries).Nodup)
    (f : α → Option β) :
    (keys (entries.filterMap fun e => (f e.2).map fun value => (e.1, value))).Nodup :=
  (keys_filterMap_sublist entries f).nodup h

/-- A key that is not there yet comes last. -/
theorem put_of_notMem {key : Text} {value : α} {entries : List (Text × α)}
    (h : key ∉ keys entries) : put key value entries = entries ++ [(key, value)] := by
  induction entries with
  | nil => rfl
  | cons entry rest ih =>
    have hcons : key ∉ entry.1 :: keys rest := h
    rw [List.mem_cons, not_or] at hcons
    rw [put, if_neg (Ne.symm hcons.1), ih hcons.2, List.cons_append]

theorem find?_eq_some_iff_mem {entries : List (Text × α)} (h : (keys entries).Nodup) {key : Text}
    {value : α} : find? key entries = some value ↔ (key, value) ∈ entries := by
  induction entries with
  | nil => simp [find?]
  | cons entry rest ih =>
    obtain ⟨k, v⟩ := entry
    have hcons : (k :: keys rest).Nodup := h
    rw [List.nodup_cons] at hcons
    rw [find?, List.mem_cons, Prod.mk.injEq]
    by_cases hk : k = key
    · subst hk
      have hnot : (k, value) ∉ rest := fun hmem => hcons.1 (List.mem_map_of_mem hmem)
      simp [hnot, eq_comm]
    · rw [if_neg hk, ih hcons.2]
      simp [Ne.symm hk]

/-- Where keys are distinct, it does not matter from which end they are searched. -/
theorem find?_reverse {entries : List (Text × α)} (h : (keys entries).Nodup) (key : Text) :
    (entries.reverse.find? fun e => e.1 = key).map (·.2) = find? key entries := by
  induction entries with
  | nil => rfl
  | cons entry rest ih =>
    obtain ⟨k, v⟩ := entry
    have hcons : (k :: keys rest).Nodup := h
    rw [List.nodup_cons] at hcons
    have hrest := ih hcons.2
    rw [List.reverse_cons, List.find?_append, find?]
    by_cases hk : k = key
    · have hnone : find? key rest = none := by
        rw [Option.eq_none_iff_forall_ne_some]
        intro w hw
        refine hcons.1 (find?_isSome_iff.mp ?_)
        rw [hk, hw]
        rfl
      rw [hnone, Option.map_eq_none_iff] at hrest
      rw [hrest, if_pos hk]
      simp [hk]
    · rw [if_neg hk, ← hrest]
      cases rest.reverse.find? fun e => decide (e.1 = key) with
      | none => simp [hk]
      | some found => rfl

end Entries

/-! ## 3. Dictionaries -/

namespace Dictionary

theorem get?_erase (d : Dictionary α) (key other : Text) :
    (d.erase key).get? other = if key = other then none else d.get? other :=
  Entries.find?_filter_ne key other d.entries

/-- **Two dictionaries in one** are looked up from above. -/
theorem get?_merge (lower upper : Dictionary α) (key : Text) :
    (lower.merge upper).get? key = (upper.get? key).or (lower.get? key) := by
  rw [merge, get?_insertAll, Entries.find?_reverse upper.nodup]
  rfl

theorem get?_ofList (pairs : List (Text × α)) (key : Text) :
    (ofList pairs).get? key = (pairs.reverse.find? fun e => e.1 = key).map (·.2) := by
  rw [ofList, get?_insertAll, get?_empty, Option.or_none]

theorem get?_ofList_of_nodup {pairs : List (Text × α)} (h : (Entries.keys pairs).Nodup)
    (key : Text) : (ofList pairs).get? key = Entries.find? key pairs := by
  rw [get?_ofList, Entries.find?_reverse h]

theorem get?_eq_some_iff_mem {d : Dictionary α} {key : Text} {value : α} :
    d.get? key = some value ↔ (key, value) ∈ d.entries := Entries.find?_eq_some_iff_mem d.nodup

/-- Of pairs with one key, the last counts. -/
theorem get?_ofList_eq_some_iff {pairs : List (Text × α)} {key : Text} {value : α} :
    (ofList pairs).get? key = some value ↔ IsLast (fun p => p.1 = key) pairs (key, value) := by
  rw [get?_ofList, Option.map_eq_some_iff, ← find?_reverse_eq_some_iff]
  constructor
  · rintro ⟨p, hp, rfl⟩
    have hkey := List.find?_some hp
    rw [decide_eq_true_eq] at hkey
    rw [hp, ← hkey]
  · exact fun h => ⟨_, h, rfl⟩

/-- **Dictionaries of related pairs** find related values: what is related pair by pair, under one
key, is related key by key. -/
theorem rel_get?_ofList {β : Type} {R : Text → α → β → Prop} {l : List (Text × α)}
    {m : List (Text × β)} (h : List.Forall₂ (fun p q => p.1 = q.1 ∧ R p.1 p.2 q.2) l m)
    (key : Text) : Option.Rel (R key) ((ofList l).get? key) ((ofList m).get? key) := by
  rw [get?_ofList, get?_ofList]
  -- the last pair counts, so the induction is on the pairs from the end
  have hreverse := List.rel_reverse h
  generalize l.reverse = back at hreverse ⊢
  generalize m.reverse = other at hreverse ⊢
  induction hreverse with
  | nil => exact .none
  | @cons p q back other hpq _ ih =>
    obtain ⟨hkey, hvalue⟩ := hpq
    rw [List.find?_cons, List.find?_cons, ← hkey]
    by_cases hp : p.1 = key
    · simp only [hp, decide_true]
      exact .some (hp ▸ hvalue)
    · simp only [hp, decide_false]
      exact ih

/-- Setting many values is setting them among the entries. -/
theorem entries_insertAll (d : Dictionary α) (pairs : List (Text × α)) :
    (d.insertAll pairs).entries
      = pairs.foldl (fun entries p => Entries.put p.1 p.2 entries) d.entries := by
  induction pairs generalizing d with
  | nil => rfl
  | cons p rest ih => exact ih (d.insert p.1 p.2)

theorem insertAll_concat (d : Dictionary α) (pairs : List (Text × α)) (p : Text × α) :
    d.insertAll (pairs ++ [p]) = (d.insertAll pairs).insert p.1 p.2 := by
  rw [insertAll, List.foldl_append]
  rfl

theorem mem_keys_ofList {pairs : List (Text × α)} {key : Text} :
    key ∈ (ofList pairs).keys ↔ key ∈ Entries.keys pairs := by
  induction pairs using List.reverseRecOn with
  | nil => exact Iff.rfl
  | append_singleton pairs p ih =>
    have hkeys : Entries.keys (pairs ++ [p]) = Entries.keys pairs ++ [p.1] := List.map_append
    rw [ofList, insertAll_concat, ← ofList, keys_insert, hkeys, List.mem_append,
      List.mem_singleton, ← ih]
    split
    · next hmem => exact ⟨Or.inl, fun h => h.elim id fun heq => heq ▸ hmem⟩
    · rw [List.mem_append, List.mem_singleton]

/-- **Keys stand in the order in which they first came.** -/
theorem pairwise_keys_ofList (pairs : List (Text × α)) :
    (ofList pairs).keys.Pairwise fun a b =>
      (Entries.keys pairs).idxOf a < (Entries.keys pairs).idxOf b := by
  induction pairs using List.reverseRecOn with
  | nil => exact List.Pairwise.nil
  | append_singleton pairs p ih =>
    have hold : ∀ key ∈ (ofList pairs).keys,
        (Entries.keys (pairs ++ [p])).idxOf key = (Entries.keys pairs).idxOf key := by
      intro key hkey
      rw [Entries.keys, List.map_append]
      exact List.idxOf_append_of_mem (mem_keys_ofList.mp hkey)
    have hkept : (ofList pairs).keys.Pairwise fun a b =>
        (Entries.keys (pairs ++ [p])).idxOf a < (Entries.keys (pairs ++ [p])).idxOf b :=
      ih.imp_of_mem fun ha hb h => by rwa [hold _ ha, hold _ hb]
    rw [ofList, insertAll_concat, ← ofList, keys_insert]
    split
    · exact hkept
    · next hnew =>
      rw [List.pairwise_append]
      refine ⟨hkept, List.pairwise_singleton _ _, fun a ha b hb => ?_⟩
      obtain rfl := List.mem_singleton.mp hb
      have hlt := List.idxOf_lt_length_of_mem (mem_keys_ofList.mp ha)
      have hlast : (Entries.keys (pairs ++ [p])).idxOf p.1 = (Entries.keys pairs).length := by
        have hkeys : Entries.keys (pairs ++ [p]) = Entries.keys pairs ++ [p.1] := List.map_append
        rw [hkeys, List.idxOf_append_of_notMem fun hmem => hnew (mem_keys_ofList.mpr hmem),
          List.idxOf_cons_self, Nat.add_zero]
      rw [hold a ha, hlast]
      exact hlt

/-- Pairs with distinct keys are the entries. -/
theorem entries_ofList_of_nodup {pairs : List (Text × α)} (h : (Entries.keys pairs).Nodup) :
    (ofList pairs).entries = pairs := by
  induction pairs using List.reverseRecOn with
  | nil => rfl
  | append_singleton pairs p ih =>
    have hkeys : Entries.keys (pairs ++ [p]) = Entries.keys pairs ++ [p.1] := List.map_append
    rw [hkeys, List.nodup_append] at h
    have hnew : p.1 ∉ Entries.keys pairs := fun hmem => h.2.2 p.1 hmem p.1 List.mem_cons_self rfl
    rw [ofList, insertAll_concat, ← ofList]
    change Entries.put p.1 p.2 (ofList pairs).entries = _
    rw [ih h.1, Entries.put_of_notMem hnew]

/-- **New keys for old ones.**  Where no two keys become the same, what was found under a key is
found under the key that it has become. -/
theorem get?_ofList_filterMap {f : Text → Option Text}
    (hf : ∀ a b key, key ∈ f a → key ∈ f b → a = b) (d : Dictionary α) {old new : Text}
    (hnew : f old = some new) :
    (ofList (d.entries.filterMap fun e => (f e.1).map (·, e.2))).get? new = d.get? old := by
  have hkeys : Entries.keys (d.entries.filterMap fun e => (f e.1).map (·, e.2))
      = d.keys.filterMap f := by
    rw [keys, Entries.keys, Entries.keys, List.map_filterMap, List.filterMap_map]
    refine List.filterMap_congr fun e _ => ?_
    rw [Option.map_map]
    exact Option.map_id'
  have hnodup : (Entries.keys (d.entries.filterMap fun e => (f e.1).map (·, e.2))).Nodup := by
    rw [hkeys]
    exact d.nodup.filterMap hf
  rw [get?_ofList_of_nodup hnodup]
  ext value
  rw [Entries.find?_eq_some_iff_mem hnodup, get?_eq_some_iff_mem, List.mem_filterMap]
  constructor
  · rintro ⟨⟨k, v⟩, hmem, hmap⟩
    obtain ⟨key, hkey, heq⟩ := Option.map_eq_some_iff.mp hmap
    cases heq
    rw [hf old k new hnew hkey]
    exact hmem
  · intro hmem
    exact ⟨(old, value), hmem, by rw [hnew]; rfl⟩

/-- A dictionary is its keys in their order and what is found at them. -/
theorem ext_of_keys {a b : Dictionary α} (hkeys : a.keys = b.keys)
    (hget : ∀ key, a.get? key = b.get? key) : a = b := by
  have hentries (d : Dictionary α) :
      d.entries = d.keys.filterMap fun key => (d.get? key).map fun value => (key, value) := by
    rw [keys, Entries.keys, List.filterMap_map]
    refine ((List.filterMap_congr fun e he => ?_).trans List.filterMap_some).symm
    rw [Function.comp_apply, get?_eq_some_iff_mem.mpr he]
    rfl
  apply ext
  rw [hentries a, hentries b, hkeys]
  simp only [hget]

theorem get?_of_isEmpty {d : Dictionary α} (h : d.isEmpty = true) (key : Text) :
    d.get? key = none := by
  rw [isEmpty, List.isEmpty_iff] at h
  rw [get?, h]
  rfl

/-! ## 4. Dictionaries in one -/

theorem keys_insertAll_of_nodup {pairs : List (Text × α)} (h : (Entries.keys pairs).Nodup)
    (d : Dictionary α) :
    (d.insertAll pairs).keys = d.keys ++ (Entries.keys pairs).filter (· ∉ d.keys) := by
  induction pairs generalizing d with
  | nil => simp [insertAll, Entries.keys]
  | cons p rest ih =>
    obtain ⟨k, v⟩ := p
    have hcons : (k :: Entries.keys rest).Nodup := h
    rw [List.nodup_cons] at hcons
    have hstep : d.insertAll ((k, v) :: rest) = (d.insert k v).insertAll rest := rfl
    have hkeys : Entries.keys ((k, v) :: rest) = k :: Entries.keys rest := rfl
    rw [hstep, hkeys, ih hcons.2, keys_insert]
    by_cases hk : k ∈ d.keys
    · rw [if_pos hk, List.filter_cons_of_neg (by simp [hk])]
    · have hrest : ∀ key ∈ Entries.keys rest, key ≠ k := fun key hkey heq => hcons.1 (heq ▸ hkey)
      rw [if_neg hk, List.filter_cons_of_pos (by simp [hk]), List.append_assoc,
        List.singleton_append]
      congr 2
      refine List.filter_congr fun key hkey => ?_
      simp [hrest key hkey]

/-- The keys of the lower dictionary come first, then those that only the upper one has. -/
theorem keys_merge (lower upper : Dictionary α) :
    (lower.merge upper).keys = lower.keys ++ upper.keys.filter (· ∉ lower.keys) :=
  keys_insertAll_of_nodup upper.nodup lower

theorem merge_of_isEmpty (d : Dictionary α) {upper : Dictionary α} (h : upper.isEmpty = true) :
    d.merge upper = d := by
  rw [isEmpty, List.isEmpty_iff] at h
  rw [merge, h]
  rfl

/-- **Of three dictionaries in one, it does not matter which two are put together first.** -/
theorem merge_assoc (a b c : Dictionary α) : (a.merge b).merge c = a.merge (b.merge c) := by
  refine ext_of_keys ?_ fun key => ?_
  · simp only [keys_merge, List.filter_append, List.filter_filter, List.append_assoc]
    congr 2
    refine List.filter_congr fun key _ => ?_
    by_cases ha : key ∈ a.keys <;> simp [ha]
  · simp only [get?_merge, Option.or_assoc]

end Dictionary

end CloudAccess
