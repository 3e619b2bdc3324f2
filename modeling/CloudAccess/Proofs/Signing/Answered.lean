/-
# Which presented addresses get an answer

Whatever a signer is asked to verify comes from somebody else.  The fields of a query may be
missing, repeated or in any order, an expiry may be no number, and escapes may stand for bytes that
are no text; for all of that verifying has an answer.  What is signed for the comparison has been
decoded from the address, and decoding makes no surrogates, so there is always a signature to
compare with (`exists_signature`).

`Unanswered` has the two ways to fail that are left.  One of them is an address that cannot be read
at all: the refusal of the reader is passed on as it is, where the answer could be that the address
is not accepted.
-/
import CloudAccess.Proofs.Signing.RoundTrip
import CloudAccess.Proofs.Signing.Refused

namespace CloudAccess

/-! ## 1. What is decoded from an address -/

theorem Url.Form.not_isSurrogate_of_decodePair {t : Text} {c : CodePoint}
    (h : c ∈ (decodePair t).2) : c.isSurrogate = false := by
  rw [decodePair] at h
  split at h
  · exact Utf8.not_isSurrogate_of_mem_decodeLossy h
  · exact absurd h List.not_mem_nil

/-- The value of a field has a UTF-8 form. -/
theorem Url.not_isSurrogate_of_first? {name value : Text} {u : Url}
    (h : Form.first? name u.params = some value) : ∀ c ∈ value, c.isSurrogate = false := by
  intro c hc
  obtain ⟨before, after, hparams, -⟩ := List.lookup_eq_some_iff.mp h
  have hmem : (name, value) ∈ u.params := by
    rw [hparams]
    exact List.mem_append_right before List.mem_cons_self
  obtain ⟨piece, -, hpair⟩ := List.mem_map.mp hmem
  have hvalue : (Form.decodePair piece).2 = value := congrArg Prod.snd hpair
  rw [← hvalue] at hc
  exact Form.not_isSurrogate_of_decodePair hc

namespace Signer

/-- So has the resource that an address names. -/
theorem not_isSurrogate_of_requestedResource (s : Signer) (u : Url) :
    ∀ c ∈ s.requestedResource u.path, c.isSurrogate = false := by
  intro c hc
  have hpath : c ∈ u.path := by
    rcases requestedResource_spec s u.path with hsame | ⟨happend, -⟩
    · rwa [hsame] at hc
    · rw [happend]
      exact List.mem_append_right s.basePath hc
  exact Utf8.not_isSurrogate_of_mem_decodeLossy hpath

/-! ## 2. How verifying fails -/

/-- How verifying a presented address fails. -/
inductive Unanswered (s : Signer) (now : Number) (presented : Text) : Failure → Prop where
  | rejected {rejection : Url.Rejection} (hparse : Url.parse presented = .error rejection) :
    Unanswered s now presented (.ofFault (.address rejection))
  /-- Neither the signer nor the address has an identity, so they agree so far. -/
  | nameless {url : Url} {expires signature : Text} {expiry : Int}
      (hparse : Url.parse presented = .ok url) (hidentity : s.identity = none)
      (huid : Url.Form.first? "uid" url.params = none)
      (hexpires : Url.Form.first? "expires" url.params = some expires)
      (hsignature : Url.Form.first? "signature" url.params = some signature)
      (hread : Integer.read expires = .ok expiry) (hnow : now.exceeds expiry = false) :
    Unanswered s now presented (.ofFault .textMissing)

/-- **Verifying fails in two ways only.**  Once an address has been read, it takes a signer without
an identity. -/
theorem verifyAt_eq_error_iff {s : Signer} {code : Bytes → Bytes} (hcode : s.code = .ok code)
    {now : Number} {presented : Text} {failure : Failure} :
    s.verifyAt now presented = .error failure ↔ Unanswered s now presented failure := by
  constructor
  · intro h
    rw [verifyAt] at h
    split at h
    · next rejection hparse =>
      cases h
      exact .rejected hparse
    · next url hparse =>
      simp only at h
      split at h
      · cases h
      · next huid =>
        rw [ne_eq, Decidable.not_not] at huid
        split at h
        · next expires signature hexpires hsignature =>
          split at h
          · cases h
          · next expiry hread =>
            split at h
            · cases h
            · next hnow =>
              rw [Bool.not_eq_true] at hnow
              cases hidentity : s.identity with
              | none =>
                simp only [stringToSign, hidentity] at h
                cases h
                exact .nameless hparse hidentity (huid.trans hidentity) hexpires hsignature hread
                  hnow
              | some identity =>
                -- the identity is the one presented, and has been decoded like the rest
                obtain ⟨expected, hexpected⟩ := exists_signature hcode
                  (not_isSurrogate_of_requestedResource s url)
                  (Url.not_isSurrogate_of_first? (huid.trans hidentity))
                  (Url.not_isSurrogate_of_first? hexpires)
                simp only [stringToSign, hidentity] at h
                rw [hexpected] at h
                cases h
        · cases h
  · intro h
    cases h with
    | rejected hparse => simp only [verifyAt, hparse]
    | nameless hparse hidentity huid hexpires hsignature hread hnow =>
      simp only [verifyAt, hparse, hidentity, huid, hexpires, hsignature, hread, hnow, ne_eq,
        not_true_eq_false, if_false, Bool.false_eq_true, stringToSign]

theorem code_of_create? {identity : Option Text} {key : Option Bytes} {endpoint : Text}
    {clock : Clock} {s : Signer} (h : create? identity key endpoint clock hmac = .ok s) :
    s.identity = identity ∧ ∃ code, s.code = .ok code := by
  cases key with
  | none => cases h
  | some key =>
    obtain ⟨hidentity, -, hcode⟩ := create?_eq_ok h
    exact ⟨hidentity, Hmac.sha1 key, hcode⟩

/-- **A presented address is answered if it can be read,** at every time; if not, its refusal is
the outcome.  There is no other failure, whatever the fields of the query hold. -/
theorem verifyAt_answers_iff {identity : Text} {key : Option Bytes} {endpoint : Text}
    {clock : Clock} {s : Signer}
    (hs : create? (some identity) key endpoint clock hmac = .ok s) (now : Number)
    (presented : Text) :
    ((∃ answer, s.verifyAt now presented = .ok answer) ↔
        ∃ url, Url.parse presented = .ok url) ∧
      ∀ failure, s.verifyAt now presented = .error failure ↔
        ∃ rejection, Url.parse presented = .error rejection ∧
          failure = .ofFault (.address rejection) := by
  obtain ⟨hidentity, code, hcode⟩ := code_of_create? hs
  have hfails : ∀ failure, s.verifyAt now presented = .error failure ↔
      ∃ rejection, Url.parse presented = .error rejection ∧
        failure = .ofFault (.address rejection) := by
    intro failure
    rw [verifyAt_eq_error_iff hcode]
    constructor
    · rintro (hparse | ⟨hparse, hnone⟩)
      · exact ⟨_, hparse, rfl⟩
      · rw [hidentity] at hnone
        cases hnone
    · rintro ⟨rejection, hparse, rfl⟩
      exact .rejected hparse
  refine ⟨?_, hfails⟩
  constructor
  · rintro ⟨answer, hanswer⟩
    cases hparse : Url.parse presented with
    | ok url => exact ⟨url, rfl⟩
    | error rejection =>
      rw [(hfails _).mpr ⟨rejection, hparse, rfl⟩] at hanswer
      cases hanswer
  · rintro ⟨url, hparse⟩
    cases hanswer : s.verifyAt now presented with
    | ok answer => exact ⟨answer, rfl⟩
    | error failure =>
      obtain ⟨rejection, hrejected, -⟩ := (hfails failure).mp hanswer
      rw [hparse] at hrejected
      cases hrejected

/-- Fields that make no sense are answered, a port that is no number is not. -/
theorem verifyAt_answers_bareSigner :
    create? (some "u") (some [0x6B]) "https://h" bareSigner.clock hmac = .ok bareSigner ∧
      (∃ answer, bareSigner.verifyAt (.whole 1000) "?uid=u&expires=%FF&signature" = .ok answer) ∧
      bareSigner.verifyAt (.whole 1000) "https://h:port/?uid=u"
        = .error (.ofFault (.address (.invalidPort "port"))) := by
  refine ⟨create?_bareSigner, ?_, ?_⟩
  · refine (verifyAt_answers_iff create?_bareSigner _ _).1.mpr ?_
    exact ⟨⟨[], [], [], none, [], some "uid=u&expires=%FF&signature", none⟩, by decide +kernel⟩
  · refine ((verifyAt_answers_iff create?_bareSigner _ _).2 _).mpr ⟨_, ?_, rfl⟩
    decide +kernel

/-- Verifying does not answer every text. -/
theorem verifyAt_refusedPort :
    ¬ ∀ (now : Number) (presented : Text),
      ∃ answer, bareSigner.verifyAt now presented = .ok answer := by
  intro h
  obtain ⟨answer, hanswer⟩ := h (.whole 1000) "https://h:port/?uid=u"
  have hfailure : bareSigner.verifyAt (.whole 1000) "https://h:port/?uid=u"
      = .error (.ofFault (.address (.invalidPort "port"))) := by
    decide +kernel
  rw [hfailure] at hanswer
  cases hanswer

end Signer

end CloudAccess
