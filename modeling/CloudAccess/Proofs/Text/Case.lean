/-
# What lower case does to a text

The full mapping looks at the neighbours of a capital sigma and makes two characters of a dotted
capital I, so it is no map over the characters of a text.  What is said of it here needs the
neighbours in one place only.

* On ASCII texts it does go character by character, and moves only the letters `A` to `Z`
  (`lower_of_isAscii`).
* No letter becomes one that has another lower-case form, so one pass is enough (`lower_lower`).
  This is a property of the table of letters, checked for every pair of its runs.
* Surrogates, slashes and full stops have no case: none is lost and none is made
  (`mem_lower_of_isSurrogate`, `not_isSurrogate_of_mem_lower`).
* A slash ends a word, so the segments of a path are lowered one by one (`splitOn_lower`).  Here the
  neighbours matter: a sigma at the end of a segment is one at the end of a word.
-/
import CloudAccess.Proofs.Text.Characters
import CloudAccess.Proofs.Text.Pieces
import CloudAccess.Text.Case

namespace CloudAccess

/-! ## 1. One character at a time -/

/-- What a character becomes; `final` says that it stands at the end of a word. -/
def CodePoint.lowered (final : Bool) (c : CodePoint) : Text :=
  if c.val = 0x130 then [.ofNat 0x69, .ofNat 0x307]
  else if c.val = 0x3A3 then [.ofNat (if final then 0x3C2 else 0x3C3)]
  else [c.toLower]

namespace Text

theorem lowerFrom_cons (afterCased : Bool) (c : CodePoint) (rest : Text) :
    lowerFrom afterCased (c :: rest) = c.lowered (afterCased && !startsCased rest) ++
      lowerFrom (if c.isCaseIgnorable then afterCased else c.isCased) rest := rfl

end Text

theorem CodePoint.lowered_ne_nil (final : Bool) (c : CodePoint) : c.lowered final ≠ [] := by
  rw [lowered]
  split
  · exact List.cons_ne_nil _ _
  · split <;> exact List.cons_ne_nil _ _

namespace Text

/-- What a text becomes is what its characters become. -/
theorem exists_of_mem_lowerFrom {d : CodePoint} {t : Text} {afterCased : Bool}
    (h : d ∈ lowerFrom afterCased t) : ∃ c ∈ t, ∃ final, d ∈ c.lowered final := by
  induction t generalizing afterCased with
  | nil => exact absurd h List.not_mem_nil
  | cons c rest ih =>
    rw [lowerFrom_cons] at h
    rcases List.mem_append.mp h with hc | hrest
    · exact ⟨c, List.mem_cons_self, _, hc⟩
    · obtain ⟨e, he, hd⟩ := ih hrest
      exact ⟨e, List.mem_cons_of_mem _ he, hd⟩

/-- Every character becomes a part of what the text becomes. -/
theorem exists_lowered_subset {c : CodePoint} {t : Text} (h : c ∈ t) (afterCased : Bool) :
    ∃ final, c.lowered final ⊆ lowerFrom afterCased t := by
  induction t generalizing afterCased with
  | nil => exact absurd h List.not_mem_nil
  | cons e rest ih =>
    rw [lowerFrom_cons]
    rcases List.mem_cons.mp h with rfl | hrest
    · exact ⟨_, List.subset_append_left _ _⟩
    · obtain ⟨final, hsubset⟩ := ih hrest _
      exact ⟨final, List.subset_append_of_subset_right _ hsubset⟩

/-- No character is lost to lower case. -/
theorem lower_eq_nil_iff {t : Text} : lower t = [] ↔ t = [] := by
  refine ⟨fun h => ?_, fun h => by rw [h]; rfl⟩
  cases t with
  | nil => rfl
  | cons c rest =>
    rw [lower, lowerFrom_cons] at h
    exact absurd (List.append_eq_nil_iff.mp h).1 (CodePoint.lowered_ne_nil _ c)

/-- A row of one character, where it does not matter whether it ends a word. -/
theorem lower_replicate {c d : CodePoint} (h : ∀ final, c.lowered final = [d]) (n : Nat) :
    lower (List.replicate n c) = List.replicate n d := by
  have hrow : ∀ afterCased, lowerFrom afterCased (List.replicate n c) = List.replicate n d := by
    induction n with
    | zero => exact fun _ => rfl
    | succ n ih =>
      intro afterCased
      rw [List.replicate_succ, lowerFrom_cons, h, ih]
      rfl
  exact hrow false

end Text

/-! ## 2. ASCII texts -/

namespace CodePoint

/-- Among the ASCII characters only a capital letter has another lower-case form. -/
theorem toLower_of_isAscii {c : CodePoint} (h : c.isAscii = true) :
    (c.isAsciiUpper = true ∧ c.toLower.val = c.val + 0x20) ∨
      (c.isAsciiUpper = false ∧ c.toLower = c) := by
  rw [toLower, if_pos h]
  cases hu : c.isAsciiUpper with
  | true =>
    rw [isAscii_iff] at h
    rw [if_pos rfl, val_ofNat (by omega)]
    exact Or.inl ⟨rfl, rfl⟩
  | false => exact Or.inr ⟨rfl, if_neg Bool.false_ne_true⟩

theorem isAsciiDigit_toLower {c : CodePoint} (h : c.isAscii = true) :
    c.toLower.isAsciiDigit = c.isAsciiDigit := by
  rcases toLower_of_isAscii h with ⟨hu, hv⟩ | ⟨-, he⟩
  · rw [isAsciiUpper_iff] at hu
    have hto : c.toLower.isAsciiDigit = false := by
      rw [Bool.eq_false_iff, ne_eq, isAsciiDigit_iff, hv]
      omega
    have hc : c.isAsciiDigit = false := by
      rw [Bool.eq_false_iff, ne_eq, isAsciiDigit_iff]
      omega
    rw [hto, hc]
  · rw [he]

end CodePoint

namespace Text

theorem lowerFrom_of_isAscii {t : Text} (h : ∀ c ∈ t, c.isAscii = true) (afterCased : Bool) :
    lowerFrom afterCased t = t.map CodePoint.toLower := by
  induction t generalizing afterCased with
  | nil => rfl
  | cons c rest ih =>
    have hc := CodePoint.isAscii_iff.mp (h c List.mem_cons_self)
    rw [lowerFrom_cons, CodePoint.lowered, if_neg (show c.val ≠ 0x130 by omega),
      if_neg (show c.val ≠ 0x3A3 by omega), ih fun d hd => h d (List.mem_cons_of_mem _ hd)]
    rfl

/-- **The lower-case form of an ASCII text**, character by character. -/
theorem lower_of_isAscii {t : Text} (h : ∀ c ∈ t, c.isAscii = true) :
    lower t = t.map CodePoint.toLower := lowerFrom_of_isAscii h false

/-! ## 3. The table of letters -/

/-- No letter of the run goes to a number from `low` to `high`. -/
def LowerRun.avoids (run : LowerRun) (low high : Nat) : Bool :=
  Nat.blt (run.last + run.shift).toNat low || Nat.blt high (run.first + run.shift).toNat

/-- No letter of the run becomes an upper-case letter of another one.  Runs may lie inside each
other where one takes the even numbers and the other takes the odd ones. -/
def LowerRun.misses (run other : LowerRun) : Bool :=
  run.avoids other.first other.last ||
    other.step == 2 && (run.step == 2 || run.first == run.last) &&
      (run.first + run.shift - other.first) % 2 != 0

theorem lowerRuns_miss :
    (lowerRuns.all fun run => lowerRuns.all fun other => run.misses other) = true := by
  decide +kernel

/-- The letters of the table stay in range, and the two letters that are treated apart, the full
stop, the slash and the surrogates are no lower-case letters of it. -/
theorem lowerRuns_avoid : ∀ run ∈ lowerRuns, 0 ≤ run.first + run.shift ∧
    run.last + run.shift < 0x110000 ∧ run.avoids 0x130 0x130 = true ∧
    run.avoids 0x3A3 0x3A3 = true ∧ run.avoids 0x2E 0x2F = true ∧
    run.avoids 0xD800 0xDFFF = true := by
  decide +kernel

/-- The table holds no ASCII characters but the capital letters. -/
theorem lowerRuns_ascii :
    ∀ run ∈ lowerRuns, 0x80 ≤ run.first ∨ 0x41 ≤ run.first ∧ run.last ≤ 0x5A := by
  decide +kernel

theorem LowerRun.contains_iff {run : LowerRun} {n : Nat} :
    run.contains n = true ↔ run.first ≤ n ∧ n ≤ run.last ∧ (n - run.first) % run.step = 0 := by
  rw [contains, Bool.and_eq_true, Bool.and_eq_true, decide_eq_true_eq, decide_eq_true_eq,
    beq_iff_eq, and_assoc]

/-- Where a letter of a run goes. -/
theorem LowerRun.out_of_avoids {run : LowerRun} {low high n m : Nat}
    (h : run.avoids low high = true) (hn : run.contains n = true)
    (hm : (m : Int) = n + run.shift) : m < low ∨ high < m := by
  rw [contains_iff] at hn
  rw [avoids, Bool.or_eq_true, Nat.blt_eq, Nat.blt_eq] at h
  omega

theorem LowerRun.not_contains_of_misses {run other : LowerRun} {n m : Nat}
    (h : run.misses other = true) (hn : run.contains n = true)
    (hm : (m : Int) = n + run.shift) : other.contains m = false := by
  rw [Bool.eq_false_iff, ne_eq, contains_iff]
  rintro ⟨hfirst, hlast, hstep⟩
  rw [misses, Bool.or_eq_true, Bool.and_eq_true, Bool.and_eq_true, Bool.or_eq_true, beq_iff_eq,
    beq_iff_eq, beq_iff_eq, bne_iff_ne] at h
  rcases h with havoids | ⟨⟨hother, hrun⟩, hodd⟩
  · rcases out_of_avoids havoids hn hm with hout | hout <;> omega
  · rw [contains_iff] at hn
    rw [hother] at hstep
    rcases hrun with hrun | hrun
    · rw [hrun] at hn
      omega
    · omega

end Text

/-- **A character is a letter of the table, or lower case leaves it alone.** -/
theorem CodePoint.toLower_cases (c : CodePoint) :
    (c.toLower = c ∧ ∀ run ∈ Text.lowerRuns, run.contains c.val = false) ∨
      ∃ run ∈ Text.lowerRuns, run.contains c.val = true ∧
        (c.toLower.val : Int) = c.val + run.shift := by
  by_cases hascii : c.isAscii = true
  · have hc := isAscii_iff.mp hascii
    rcases toLower_of_isAscii hascii with ⟨hupper, hval⟩ | ⟨hnot, hsame⟩
    · rw [isAsciiUpper_iff] at hupper
      refine Or.inr ⟨⟨65, 90, 1, 32⟩, List.mem_cons_self, ?_, by rw [hval]; rfl⟩
      rw [Text.LowerRun.contains_iff]
      exact ⟨hupper.1, hupper.2, Nat.mod_one _⟩
    · refine Or.inl ⟨hsame, fun run hrun => ?_⟩
      rw [Bool.eq_false_iff, ne_eq, isAsciiUpper_iff] at hnot
      rw [Bool.eq_false_iff, ne_eq, Text.LowerRun.contains_iff]
      have hbounds := Text.lowerRuns_ascii run hrun
      omega
  · rw [toLower, if_neg hascii]
    cases hfind : Text.lowerRuns.find? (·.contains c.val) with
    | none =>
      refine Or.inl ⟨rfl, fun run hrun => ?_⟩
      rw [← Bool.not_eq_true]
      exact List.find?_eq_none.mp hfind run hrun
    | some run =>
      have hrun := List.mem_of_find?_eq_some hfind
      have hcontains := List.find?_some hfind
      obtain ⟨hlow, hhigh, -⟩ := Text.lowerRuns_avoid run hrun
      have hbounds := Text.LowerRun.contains_iff.mp hcontains
      refine Or.inr ⟨run, hrun, hcontains, ?_⟩
      show ((ofNat (c.val + run.shift).toNat).val : Int) = _
      rw [val_ofNat (by omega)]
      omega

/-! ## 4. One pass is enough -/

/-- Lower case leaves the character alone wherever it stands. -/
structure CodePoint.IsSettled (c : CodePoint) : Prop where
  notDottedI : c.val ≠ 0x130
  notSigma : c.val ≠ 0x3A3
  noLetter : ∀ run ∈ Text.lowerRuns, run.contains c.val = false

namespace CodePoint

instance (c : CodePoint) : Decidable c.IsSettled :=
  decidable_of_iff
    (c.val ≠ 0x130 ∧ c.val ≠ 0x3A3 ∧ ∀ run ∈ Text.lowerRuns, run.contains c.val = false)
    ⟨fun h => ⟨h.1, h.2.1, h.2.2⟩, fun h => ⟨h.1, h.2, h.3⟩⟩

theorem lowered_of_isSettled {c : CodePoint} (h : c.IsSettled) (final : Bool) :
    c.lowered final = [c] := by
  rw [lowered, if_neg h.notDottedI, if_neg h.notSigma]
  rcases toLower_cases c with ⟨hsame, -⟩ | ⟨run, hrun, hcontains, -⟩
  · rw [hsame]
  · rw [h.noLetter run hrun] at hcontains
    cases hcontains

/-- **What a character becomes is settled.** -/
theorem isSettled_of_mem_lowered {c d : CodePoint} {final : Bool} (h : d ∈ c.lowered final) :
    d.IsSettled := by
  rw [lowered] at h
  split at h
  · have hboth : ∀ e ∈ [ofNat 0x69, ofNat 0x307], e.IsSettled := by decide +kernel
    exact hboth d h
  · next hdotted =>
    split at h
    · have hboth : ∀ e ∈ [ofNat 0x3C2, ofNat 0x3C3], e.IsSettled := by decide +kernel
      refine hboth d ?_
      cases final with
      | true => exact List.mem_cons.mpr (Or.inl (List.mem_singleton.mp h))
      | false => exact List.mem_cons_of_mem _ h
    · next hsigma =>
      rw [List.mem_singleton.mp h]
      rcases toLower_cases c with ⟨hsame, hnone⟩ | ⟨run, hrun, hcontains, hval⟩
      · rw [hsame]
        exact ⟨hdotted, hsigma, hnone⟩
      · obtain ⟨-, -, hI, hS, -⟩ := Text.lowerRuns_avoid run hrun
        have hnotI := Text.LowerRun.out_of_avoids hI hcontains hval
        have hnotS := Text.LowerRun.out_of_avoids hS hcontains hval
        refine ⟨by omega, by omega, fun other hother => ?_⟩
        have hmiss := List.all_eq_true.mp (List.all_eq_true.mp Text.lowerRuns_miss run hrun)
        exact Text.LowerRun.not_contains_of_misses (hmiss other hother) hcontains hval

end CodePoint

namespace Text

theorem lowerFrom_of_isSettled {t : Text} (h : ∀ c ∈ t, c.IsSettled) (afterCased : Bool) :
    lowerFrom afterCased t = t := by
  induction t generalizing afterCased with
  | nil => rfl
  | cons c rest ih =>
    rw [lowerFrom_cons, CodePoint.lowered_of_isSettled (h c List.mem_cons_self),
      ih fun d hd => h d (List.mem_cons_of_mem _ hd)]
    rfl

/-- **Lower case has nothing left to do on a text in lower case.** -/
theorem lower_lower (t : Text) : lower (lower t) = lower t := by
  refine lowerFrom_of_isSettled (fun d hd => ?_) false
  obtain ⟨c, -, final, hmem⟩ := exists_of_mem_lowerFrom hd
  exact CodePoint.isSettled_of_mem_lowered hmem

/-! ## 5. Characters without case -/

/-- A character that no letter becomes comes from itself. -/
theorem eq_of_mem_lowered {low high : Nat} (hruns : ∀ run ∈ lowerRuns, run.avoids low high = true)
    (hapart : ∀ n ∈ [0x69, 0x307, 0x3C2, 0x3C3], n < low ∨ high < n) {c d : CodePoint}
    {final : Bool} (h : d ∈ c.lowered final) (hd : low ≤ d.val ∧ d.val ≤ high) : d = c := by
  simp only [List.forall_mem_cons, List.not_mem_nil, false_imp_iff, implies_true] at hapart
  rw [CodePoint.lowered] at h
  split at h
  · have hval : d.val = 0x69 ∨ d.val = 0x307 := by
      rcases List.mem_cons.mp h with rfl | h
      · exact Or.inl rfl
      · exact Or.inr (by rw [List.mem_singleton.mp h]; rfl)
    omega
  · split at h
    · have hval : d.val = 0x3C2 ∨ d.val = 0x3C3 := by
        rw [List.mem_singleton.mp h]
        cases final with
        | true => exact Or.inl rfl
        | false => exact Or.inr rfl
      omega
    · rw [List.mem_singleton.mp h] at hd ⊢
      rcases CodePoint.toLower_cases c with ⟨hsame, -⟩ | ⟨run, hrun, hcontains, hval⟩
      · exact hsame
      · have hout := LowerRun.out_of_avoids (hruns run hrun) hcontains hval
        omega

/-- A slash or a full stop comes from itself. -/
theorem eq_of_mem_lowered_mark {c d : CodePoint} {final : Bool} (h : d ∈ c.lowered final)
    (hd : 0x2E ≤ d.val ∧ d.val ≤ 0x2F) : d = c :=
  eq_of_mem_lowered (fun run hrun => (lowerRuns_avoid run hrun).2.2.2.2.1) (by decide) h hd

/-- **Lower case makes no surrogates.** -/
theorem not_isSurrogate_of_mem_lower {t : Text} (h : ∀ c ∈ t, c.isSurrogate = false) :
    ∀ d ∈ lower t, d.isSurrogate = false := by
  intro d hd
  obtain ⟨c, hc, final, hmem⟩ := exists_of_mem_lowerFrom hd
  cases hsurrogate : d.isSurrogate with
  | false => rfl
  | true =>
    have hsame : d = c := eq_of_mem_lowered
      (fun run hrun => (lowerRuns_avoid run hrun).2.2.2.2.2) (by decide) hmem
      (CodePoint.isSurrogate_iff.mp hsurrogate)
    rw [hsame, h c hc] at hsurrogate
    cases hsurrogate

theorem lowerRuns_avoid_surrogates :
    ∀ run ∈ lowerRuns, run.last < 0xD800 ∨ 0xDFFF < run.first := by
  decide +kernel

theorem isSettled_of_isSurrogate {c : CodePoint} (h : c.isSurrogate = true) : c.IsSettled := by
  rw [CodePoint.isSurrogate_iff] at h
  refine ⟨by omega, by omega, fun run hrun => ?_⟩
  rw [Bool.eq_false_iff, ne_eq, LowerRun.contains_iff]
  have havoid := lowerRuns_avoid_surrogates run hrun
  omega

/-- **Lower case keeps surrogates**, so a text has a UTF-8 form if its lower-case form has. -/
theorem mem_lower_of_isSurrogate {c : CodePoint} (h : c.isSurrogate = true) {t : Text}
    (hc : c ∈ t) : c ∈ lower t := by
  obtain ⟨final, hsubset⟩ := exists_lowered_subset hc false
  rw [CodePoint.lowered_of_isSettled (isSettled_of_isSurrogate h)] at hsubset
  exact hsubset List.mem_cons_self

/-! ## 6. The segments of a path -/

/-- Lower case leaves the marks and digits of ASCII alone that come before its letters. -/
theorem isSettled_of_lt {c : CodePoint} (h : c.val < 0x41) : c.IsSettled := by
  refine ⟨by omega, by omega, fun run hrun => ?_⟩
  rw [Bool.eq_false_iff, ne_eq, LowerRun.contains_iff]
  have hascii := lowerRuns_ascii run hrun
  omega

theorem isSettled_slash : CodePoint.IsSettled '/' := isSettled_of_lt (by decide)

theorem isSettled_dot : CodePoint.IsSettled '.' := isSettled_of_lt (by decide)

/-- A slash is no letter, so nothing behind it counts as the neighbour of what stands before. -/
theorem startsCased_append_slash (s t : Text) :
    startsCased (s ++ CodePoint.ofChar '/' :: t) = startsCased s := by
  induction s with
  | nil => rfl
  | cons c rest ih => rw [List.cons_append, startsCased, startsCased, ih]

/-- **A slash parts a text for lower case too.** -/
theorem lowerFrom_append_slash (afterCased : Bool) (s t : Text) :
    lowerFrom afterCased (s ++ CodePoint.ofChar '/' :: t)
      = lowerFrom afterCased s ++ CodePoint.ofChar '/' :: lower t := by
  induction s generalizing afterCased with
  | nil =>
    rw [List.nil_append, lowerFrom_cons, CodePoint.lowered_of_isSettled isSettled_slash]
    rfl
  | cons c rest ih =>
    rw [List.cons_append, lowerFrom_cons, lowerFrom_cons, startsCased_append_slash, ih,
      List.append_assoc]

theorem lower_join_slash (pieces : List Text) :
    lower (join [CodePoint.ofChar '/'] pieces)
      = join [CodePoint.ofChar '/'] (pieces.map lower) := by
  induction pieces with
  | nil => rfl
  | cons piece more ih =>
    cases more with
    | nil => rw [List.map_cons, List.map_nil, join_singleton, join_singleton]
    | cons next rest =>
      rw [join_cons_cons, lower, lowerFrom_append_slash, ih]
      exact (join_cons_cons _ _ _ _).symm

theorem slash_notMem_lower {t : Text} (h : CodePoint.ofChar '/' ∉ t) :
    CodePoint.ofChar '/' ∉ lower t := by
  intro hmem
  obtain ⟨c, hc, final, hlowered⟩ := exists_of_mem_lowerFrom hmem
  rw [← eq_of_mem_lowered_mark hlowered (by decide)] at hc
  exact h hc

/-- **The segments of a text in lower case are its segments in lower case.** -/
theorem splitOn_lower (t : Text) : splitOn '/' (lower t) = (splitOn '/' t).map lower := by
  have hfree : ∀ piece ∈ (splitOn '/' t).map lower, CodePoint.ofChar '/' ∉ piece := by
    intro piece hpiece
    obtain ⟨segment, hsegment, rfl⟩ := List.mem_map.mp hpiece
    exact slash_notMem_lower (notMem_of_mem_splitOn hsegment)
  have hne : (splitOn '/' t).map lower ≠ [] := by
    rw [ne_eq, List.map_eq_nil_iff]
    exact splitOn_ne_nil _ t
  calc splitOn '/' (lower t)
      = splitOn '/' (lower (join [CodePoint.ofChar '/'] (splitOn '/' t))) := by rw [join_splitOn]
    _ = splitOn '/' (join [CodePoint.ofChar '/'] ((splitOn '/' t).map lower)) := by
        rw [lower_join_slash]
    _ = (splitOn '/' t).map lower := splitOn_join hne hfree

/-- A text that becomes full stops was made of them. -/
theorem lower_eq_dots_iff {t dots : Text} (h : ∀ d ∈ dots, d = '.') :
    lower t = dots ↔ t = dots := by
  have hsettled : ∀ s : Text, (∀ c ∈ s, c = '.') → lower s = s := fun s hs =>
    lowerFrom_of_isSettled (fun c hc => hs c hc ▸ isSettled_dot) false
  constructor
  · intro hlower
    have hdots : ∀ c ∈ t, c = '.' := by
      intro c hc
      obtain ⟨final, hsubset⟩ := exists_lowered_subset hc false
      obtain ⟨d, hd⟩ := List.exists_mem_of_ne_nil _ (CodePoint.lowered_ne_nil final c)
      have hdot : d = '.' := h d (hlower ▸ hsubset hd)
      rw [← eq_of_mem_lowered_mark hd (by rw [hdot]; decide)]
      exact hdot
    rw [← hlower, hsettled t hdots]
  · rintro rfl
    exact hsettled t h

end Text

end CloudAccess
