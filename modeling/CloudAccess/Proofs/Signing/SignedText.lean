/-
# How far the signed text tells its fields apart

The text that is signed joins its fields with line ends and escapes nothing.  The expiry is
written in digits, so the last line end is always found; the one before it is not.  An identity
may hold line ends, and so may a path, and then a piece of text between the two can be read as the
end of the path or as the beginning of the identity.

`stringToSign_eq_iff` says that this is all that can happen, and `stringToSign_lineEnd` that it does
happen: one key gives `bob` and an identity that ends in a line with `bob` a signature in common.
-/
import CloudAccess.Proofs.Text.Decimal
import CloudAccess.Proofs.Text.Pieces
import CloudAccess.Signing.Signer

namespace CloudAccess.Signer

/-! ## 1. The fields of a signed text -/

/-- The line end between the fields. -/
def lineEnd : CodePoint := CodePoint.ofChar '\n'

theorem signedLines_eq (identity resource expires : Text) :
    signedLines identity resource expires
      = "GET" ++ lineEnd ::
        ((Text.lower resource ++ lineEnd :: identity) ++ lineEnd :: expires) := by
  simp [signedLines, Text.join, List.intercalate, lineEnd, Text.ofString]

theorem lineEnd_notMem_write (n : Int) : lineEnd ∉ Integer.write n := by
  intro h
  have hw := Integer.isWritten_of_mem_write h
  exact absurd hw (by decide)

/-- Two signed texts are equal if what stands behind the method is. -/
theorem signedLines_inj {i j r q d e : Text} :
    signedLines i r d = signedLines j q e ↔
      (Text.lower r ++ lineEnd :: i) ++ lineEnd :: d
        = (Text.lower q ++ lineEnd :: j) ++ lineEnd :: e := by
  rw [signedLines_eq, signedLines_eq, List.append_cancel_left_eq, List.cons.injEq]
  exact and_iff_right rfl

/-- `i` is the identity `j` with `w` and a line end before it, and `w` is missing from the resource
`r` where `q` ends in it. -/
def Shifted (w i r j q : Text) : Prop :=
  i = w ++ lineEnd :: j ∧ Text.lower q = Text.lower r ++ lineEnd :: w

/-- **When two signed texts are equal.**  The expiries agree, and so do the identities and the
resources, up to letter case, unless a piece of text has moved from one to the other. -/
theorem signedLines_write_eq_iff {i j r q : Text} {m n : Int} :
    signedLines i r (Integer.write m) = signedLines j q (Integer.write n) ↔
      m = n ∧ (i = j ∧ Text.lower r = Text.lower q ∨
        ∃ w, Shifted w i r j q ∨ Shifted w j q i r) := by
  rw [signedLines_inj, Text.append_cons_inj (lineEnd_notMem_write m) (lineEnd_notMem_write n),
    Integer.write_injective.eq_iff, and_comm, Text.append_cons_eq_iff]
  refine and_congr_right fun _ => ?_
  constructor
  · rintro (⟨hr, hi⟩ | ⟨w, hr, hj⟩ | ⟨w, hq, hi⟩)
    · exact Or.inl ⟨hi, hr⟩
    · exact Or.inr ⟨w, Or.inr ⟨hj, hr⟩⟩
    · exact Or.inr ⟨w, Or.inl ⟨hi, hq⟩⟩
  · rintro (⟨hi, hr⟩ | ⟨w, ⟨hi, hq⟩ | ⟨hj, hr⟩⟩)
    · exact Or.inl ⟨hr, hi⟩
    · exact Or.inr (Or.inr ⟨w, hq, hi⟩)
    · exact Or.inr (Or.inl ⟨w, hr, hj⟩)

/-! ## 2. The texts of two signers -/

/-- **When two signers sign the same text.**  They sign for the same time, and either for the same
identity and, up to letter case, the same resource, or the text before a line end in one identity
is what the resource of the other has at its end after a line end. -/
theorem stringToSign_eq_iff {s t : Signer} {i j : Text} (hi : s.identity = some i)
    (hj : t.identity = some j) (path other : Text) (m n : Int) :
    s.stringToSign (some (namespacePath ++ path)) (some (Integer.write m))
        = t.stringToSign (some (namespacePath ++ other)) (some (Integer.write n)) ↔
      m = n ∧
        (i = j ∧ Text.lower (namespacePath ++ path) = Text.lower (namespacePath ++ other) ∨
          ∃ w, Shifted w i (namespacePath ++ path) j (namespacePath ++ other) ∨
            Shifted w j (namespacePath ++ other) i (namespacePath ++ path)) := by
  have htext : ∀ {s : Signer} {i : Text}, s.identity = some i → ∀ (r : Text) (m : Int),
      s.stringToSign (some r) (some (Integer.write m))
        = .ok (signedLines i r (Integer.write m)) := by
    intro s i hi r m
    simp only [stringToSign, hi]
  rw [htext hi, htext hj, ← signedLines_write_eq_iff]
  exact ⟨Except.ok.inj, congrArg Except.ok⟩

/-- A signer of the given identity; its key does not depend on it. -/
def keyedSigner (identity : Text) : Signer :=
  ⟨some identity, ⟨"https", [], "accesspoint.example.com", none, [], none, none⟩,
    fun _ => .ok (.number (.whole 2000)), hmac [0x6B]⟩

/-- What an identity with a line end signs below a short path, another signs below a longer one. -/
theorem stringToSign_eq_of_shifted :
    (keyedSigner "a\nbob").identity = some "a\nbob" ∧ (keyedSigner "bob").identity = some "bob" ∧
      (keyedSigner "a\nbob").stringToSign (some (namespacePath ++ "X")) (some (Integer.write (-7)))
        = (keyedSigner "bob").stringToSign (some (namespacePath ++ "x\nA"))
            (some (Integer.write (-7))) :=
  ⟨rfl, rfl, (stringToSign_eq_iff rfl rfl "X" "x\nA" (-7) (-7)).mpr
    ⟨rfl, Or.inr ⟨"a", Or.inl ⟨by decide, by decide⟩⟩⟩⟩

/-- **The signed text does not determine the identity.**  Both signers issue an address, and the
signature of the one is the signature of the other. -/
theorem stringToSign_lineEnd :
    (keyedSigner "bob").stringToSign (some (namespacePath ++ "a\nx")) (some (Integer.write 2000))
        = (keyedSigner "x\nbob").stringToSign (some (namespacePath ++ "a"))
            (some (Integer.write 2000)) ∧
      ((keyedSigner "bob").sign "log" (.whole 0) (some "a\nx")).outcome.toOption.map
        SignedUrl.signature = some "N1MdhvSsSfsn/0qA7rXVbHUSFvw=" ∧
      ((keyedSigner "x\nbob").sign "log" (.whole 0) (some "a")).outcome.toOption.map
        SignedUrl.signature = some "N1MdhvSsSfsn/0qA7rXVbHUSFvw=" ∧
      ("bob" : Text) ≠ "x\nbob" ∧
      Text.lower (namespacePath ++ "a\nx") ≠ Text.lower (namespacePath ++ "a") := by
  exact ⟨by decide, by decide +kernel, by decide +kernel, by decide, by decide⟩

end CloudAccess.Signer
