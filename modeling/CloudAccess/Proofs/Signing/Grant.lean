/-
# What a signature grants

Whoever holds an issued address holds its signature, and may present it with any other path,
expiry and identity.  If the code of the key tells all texts apart, this is of no use to them:
`verifyAt_grants` says that a presented address with an issued signature is accepted only for the
identity, the expiry and the resource that the signature was issued for.

The fields of the signed text are not marked off from each other, and a presented expiry is read
with blanks around it, so the cut before the expiry could be made one line end earlier.  Then the
identity would end in itself and a line end and blanks, and therefore consist of blanks only
(`signedLines_read`).
-/
import CloudAccess.Proofs.Base64
import CloudAccess.Proofs.Signing.Issued
import CloudAccess.Proofs.Signing.SignedText

namespace CloudAccess.Signer

/-! ## 1. Signatures tell texts apart -/

theorem signature_eq_ok_iff {s : Signer} {t signature : Text} :
    s.signature (some t) = .ok signature ↔ ∃ code message, s.code = .ok code ∧
      Utf8.encode t = .ok message ∧ signature = Base64.encode (code message) := by
  rw [Signer.signature]
  constructor
  · intro h
    split at h
    · cases h
    · next code hcode =>
      split at h
      · next hnone => cases hnone
      · next u hu =>
        cases hu
        split at h
        · cases h
        · next message hmessage =>
          cases h
          exact ⟨code, message, hcode, hmessage, rfl⟩
  · rintro ⟨code, message, hcode, hmessage, rfl⟩
    simp only [hcode, hmessage]

/-- **One signature is one text,** if the code is injective. -/
theorem signature_injective {s : Signer} {code : Bytes → Bytes} (hcode : s.code = .ok code)
    (hinjective : Function.Injective code) {t u signature : Text}
    (ht : s.signature (some t) = .ok signature) (hu : s.signature (some u) = .ok signature) :
    t = u := by
  obtain ⟨ct, mt, hct, hmt, het⟩ := signature_eq_ok_iff.mp ht
  obtain ⟨cu, mu, hcu, hmu, heu⟩ := signature_eq_ok_iff.mp hu
  rw [hcode, Except.ok.injEq] at hct hcu
  rw [← hct] at het
  rw [← hcu] at heu
  have hcodes : code mt = code mu := Base64.encode_injective (het.symm.trans heu)
  rw [hinjective hcodes] at hmt
  exact Utf8.encode_injective hmt hmu

/-! ## 2. What verifying asks for -/

/-- **An address is accepted** if it carries the identity of the signer, an expiry that has not
passed and the signature of the text made of both and its path. -/
theorem verifyAt_eq_true_iff {s : Signer} {now : Number} {presented : Text} :
    s.verifyAt now presented = .ok true ↔ ∃ url identity expires signature expiry,
      Url.parse presented = .ok url ∧ s.identity = some identity ∧
      Url.Form.first? "uid" url.params = some identity ∧
      Url.Form.first? "expires" url.params = some expires ∧
      Url.Form.first? "signature" url.params = some signature ∧
      Integer.read expires = .ok expiry ∧ now.exceeds expiry = false ∧
      s.signature (some (signedLines identity (s.requestedResource url.path) expires))
        = .ok signature := by
  constructor
  · intro h
    rw [verifyAt] at h
    split at h
    · cases h
    · next url hurl =>
      simp only at h
      split at h
      · cases h
      · next huid =>
        rw [ne_eq, Decidable.not_not] at huid
        split at h
        · next expires signature hexpires hsignature =>
          split at h
          · cases h
          · next expiry hread =>
            split at h
            · cases h
            · next hnow =>
              rw [Bool.not_eq_true] at hnow
              cases hidentity : s.identity with
              | none =>
                simp only [stringToSign, hidentity] at h
                cases h
              | some identity =>
                simp only [stringToSign, hidentity] at h
                rw [hidentity] at huid
                refine ⟨url, identity, expires, signature, expiry, hurl, rfl, huid, hexpires,
                  hsignature, hread, hnow, ?_⟩
                cases hexpected : s.signature
                    (some (signedLines identity (s.requestedResource url.path) expires)) with
                | error failure => rw [hexpected] at h; cases h
                | ok expected =>
                  rw [hexpected] at h
                  rw [of_decide_eq_true (Except.ok.inj h)]
        · cases h
  · rintro ⟨url, identity, expires, signature, expiry, hurl, hidentity, huid, hexpires, hsignature,
      hread, hnow, hexpected⟩
    simp only [verifyAt, hurl, huid, hexpires, hsignature, hidentity, hread, hnow, ne_eq,
      not_true_eq_false, if_false, Bool.false_eq_true, stringToSign, hexpected, Except.map,
      decide_true]

/-! ## 3. No second reading of a signed text -/

theorem exists_not_isNumberBlank_write (n : Int) :
    ∃ c ∈ Integer.write n, c.isNumberBlank = false := by
  obtain ⟨c, hc⟩ := List.exists_mem_of_ne_nil _ (Integer.write_ne_nil n)
  exact ⟨c, hc, Integer.not_isNumberBlank_of_isWritten (Integer.isWritten_of_mem_write hc)⟩

/-- The line end that is found before a written expiry is the only one that can stand before an
expiry that is read, as long as something in the identity is no blank. -/
theorem signedLines_read {i r q e : Text} {m n : Int} (hread : Integer.read e = .ok n)
    (hi : ∃ c ∈ i, c.isNumberBlank = false)
    (h : signedLines i q e = signedLines i r (Integer.write m)) :
    e = Integer.write m ∧ Text.lower q = Text.lower r := by
  rw [signedLines_inj, Text.append_cons_eq_iff] at h
  rcases h with ⟨hfront, he⟩ | ⟨w, -, hm⟩ | ⟨w, hfront, he⟩
  · exact ⟨he, List.append_cancel_right hfront⟩
  · -- a written expiry has no line end
    exact absurd (hm ▸ List.mem_append_right w List.mem_cons_self) (lineEnd_notMem_write m)
  · -- what the presented expiry has before the issued one is blank, and so is all of the identity
    have hblank : ∀ c ∈ w, c.isNumberBlank = true :=
      Integer.isNumberBlank_of_read (he ▸ hread) (exists_not_isNumberBlank_write m)
    have hends : Text.lower r ++ [lineEnd] ++ i
        = Text.lower q ++ [lineEnd] ++ i ++ lineEnd :: w := by
      simpa only [List.append_assoc, List.singleton_append, List.cons_append, List.nil_append]
        using hfront
    have hsubset : i ⊆ lineEnd :: w := Text.subset_of_append_eq (List.cons_ne_nil _ _) hends
    obtain ⟨c, hc, hvisible⟩ := hi
    have hcblank : c.isNumberBlank = true := by
      rcases List.mem_cons.mp (hsubset hc) with rfl | hw
      · decide
      · exact hblank c hw
    rw [hvisible] at hcblank
    exact absurd hcblank Bool.false_ne_true

/-! ## 4. The grant -/

/-- The path of the endpoint is taken off a path once at most, and only where a slash follows. -/
theorem requestedResource_spec (s : Signer) (path : Text) :
    s.requestedResource path = path ∨
      path = s.basePath ++ s.requestedResource path ∧
        Text.startsWith (s.requestedResource path) "/" = true := by
  rw [requestedResource]
  split
  · exact Or.inl rfl
  · split
    · next rest hrest =>
      rw [Text.dropStart?_eq_some_iff, List.append_assoc] at hrest
      exact Or.inr ⟨hrest, Text.startsWith_iff.mpr ⟨rest, rfl⟩⟩
    · exact Or.inl rfl

/-- **An issued signature is good for one identity, one expiry and one resource.**  It does not
matter which address it is presented in.  It is good at no time that exceeds the expiry; what is no
number at all exceeds nothing.  The identity has to hold some character that is no blank around a
number, as every character that is no white space is. -/
theorem verifyAt_grants {s : Signer} {code : Bytes → Bytes} {logger : Text} {now later : Number}
    {path? : Option Text} {u : SignedUrl} {presented : Text} {url : Url}
    (hcode : s.code = .ok code) (hinjective : Function.Injective code)
    (hidentity : ∀ identity ∈ s.identity, ∃ c ∈ identity, c.isNumberBlank = false)
    (hu : (s.sign logger now path?).outcome = .ok u) (hurl : Url.parse presented = .ok url)
    (hsignature : Url.Form.first? "signature" url.params = some u.signature)
    (haccepted : s.verifyAt later presented = .ok true) :
    Url.Form.first? "uid" url.params = s.identity ∧
      Url.Form.first? "expires" url.params = some (Integer.write u.expires) ∧
      later.exceeds u.expires = false ∧
      (later.hasValue = true → later.ceiling ≤ u.expires) ∧
      Text.lower (s.requestedResource url.path) = Text.lower u.resource ∧
      (s.requestedResource url.path = url.path ∨
        url.path = s.basePath ++ s.requestedResource url.path ∧
          Text.startsWith (s.requestedResource url.path) "/" = true) := by
  obtain ⟨path, -, hissued⟩ := sign_eq_ok_iff.mp hu
  obtain ⟨read, identity, expires, signature, expiry, hread, hid, huid, hexpires, hsig, hexpiry,
    hnow, hsigned⟩ := verifyAt_eq_true_iff.mp haccepted
  rw [hurl, Except.ok.injEq] at hread
  subst hread
  rw [hsignature, Option.some_inj] at hsig
  subst hsig
  -- the issued text and the presented one have the same signature
  have hsame : signedLines identity (s.requestedResource url.path) expires
      = signedLines u.identity u.resource (Integer.write u.expires) :=
    signature_injective hcode hinjective hsigned hissued.signature
  have hidentities : u.identity = identity := by
    rw [hissued.identity, Option.some_inj] at hid
    exact hid
  rw [hidentities] at hsame
  obtain ⟨hwritten, hlower⟩ := signedLines_read hexpiry (hidentity identity hid) hsame
  have hexpiry' : expiry = u.expires := by
    rw [hwritten, Integer.read_write (isWritable_of_expiry hissued.expiry)] at hexpiry
    exact (Except.ok.inj hexpiry).symm
  rw [hexpiry'] at hnow
  have hnotLate : later.hasValue = true → later.ceiling ≤ u.expires := by
    intro hvalue
    rw [Number.exceeds, if_pos hvalue, decide_eq_false_iff_not, Int.not_lt] at hnow
    exact hnow
  exact ⟨huid.trans hid.symm, hwritten ▸ hexpires, hnow, hnotLate, hlower,
    requestedResource_spec s url.path⟩

/-- A signer whose code is the key with the message behind it. -/
def prefixingSigner : Signer where
  identity := some "b\nob"
  endpoint := ⟨"https", [], "example.com", none, "/rest", none, none⟩
  clock := fun _ => .ok (.number (.whole 2000))
  code := .ok fun message => 0x6B :: message

/-- What it issues for a path with a line end. -/
def prefixedUrl : SignedUrl where
  url := "https://example.com/rest/rest/namespace/a%0AB?uid=b%0Aob&expires=2000" ++
    "&signature=a0dFVAovcmVzdC9uYW1lc3BhY2UvYQpiCmIKb2IKMjAwMA%3D%3D"
  identity := "b\nob"
  expires := 2000
  signature := "a0dFVAovcmVzdC9uYW1lc3BhY2UvYQpiCmIKb2IKMjAwMA=="
  resource := "/rest/namespace/a\nB"

/-- The signature, presented at another host with the path in another case and a second identity. -/
def presentedElsewhere : Url where
  scheme := "https"
  userinfo := []
  host := "other"
  port? := none
  rawPath := "/rest/REST/namespace/A%0Ab"
  rawQuery? := some ("x&signature=a0dFVAovcmVzdC9uYW1lc3BhY2UvYQpiCmIKb2IKMjAwMA%3D%3D" ++
    "&uid=b%0Aob&expires=2000&uid=eve")
  rawFragment? := none

/-- The address is accepted, and what it is accepted for is what was issued. -/
theorem verifyAt_grants_elsewhere :
    (prefixingSigner.sign "log" (.whole 0) (some "a\nB")).outcome = .ok prefixedUrl ∧
      prefixingSigner.verifyAt (.whole 2000) presentedElsewhere.toText = .ok true ∧
      Url.Form.first? "uid" presentedElsewhere.params = prefixingSigner.identity ∧
      Url.Form.first? "expires" presentedElsewhere.params = some (Integer.write 2000) ∧
      (2000 : Int) ≤ 2000 ∧
      Text.lower (prefixingSigner.requestedResource presentedElsewhere.path)
        = Text.lower "/rest/namespace/a\nB" := by
  have hsign : (prefixingSigner.sign "log" (.whole 0) (some "a\nB")).outcome = .ok prefixedUrl := by
    decide +kernel
  have haccepted : prefixingSigner.verifyAt (.whole 2000) presentedElsewhere.toText = .ok true := by
    decide +kernel
  have hinjective : Function.Injective fun message : Bytes => (0x6B :: message : Bytes) :=
    fun _ _ h => (List.cons.inj h).2
  have hvisible : ∀ identity ∈ prefixingSigner.identity,
      ∃ c ∈ identity, c.isNumberBlank = false := by
    intro identity hi
    cases hi
    exact ⟨'b', by decide, by decide⟩
  obtain ⟨huid, hexpires, -, htime, hresource, -⟩ := verifyAt_grants rfl hinjective hvisible hsign
    (by decide +kernel : Url.parse presentedElsewhere.toText = .ok presentedElsewhere)
    (by decide +kernel) haccepted
  exact ⟨hsign, haccepted, huid, hexpires, htime rfl, hresource⟩

end CloudAccess.Signer
