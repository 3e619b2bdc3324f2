/-
# Addresses are read back from their written form

`Url.toText` puts the delimiters of an address back between its parts, and `Parts.ofText` cuts
them apart again.  That this gives the same parts (`ofText_toText`) depends on which characters
each part may hold, and those are what normalising leaves behind: `Written` collects them, and
`written_of_normalize` says that every address is of this kind, wherever it comes from.

Reading such a text again may turn letters of the host into lower case and drop a port that the
scheme implies, but it does not touch the path, the query or the fragment, as long as the path
has no dot segments (`parse_toText`).
-/
import CloudAccess.Proofs.Text.Decimal
import CloudAccess.Proofs.Url.Host

namespace CloudAccess.Url

/-! ## 1. What normalising asks for -/

theorem bind_eq_ok_iff {ε α β : Type} {x : Except ε α} {f : α → Except ε β} {b : β} :
    (x >>= f) = .ok b ↔ ∃ a, x = .ok a ∧ f a = .ok b := by
  cases x with
  | error e => exact ⟨(nomatch ·), fun ⟨_, ha, _⟩ => nomatch ha⟩
  | ok a =>
    constructor
    · intro h
      exact ⟨a, rfl, h⟩
    · rintro ⟨_, ha, h⟩
      cases ha
      exact h

/-- The address has user information, a host or a port. -/
def hasAuthority (u : Url) : Bool := !u.userinfo.isEmpty || !u.host.isEmpty || u.port?.isSome

/-- **An address is the outcome of normalising parts** if each of its parts is. -/
theorem Parts.normalize_eq_ok_iff {p : Parts} {u : Url} :
    p.normalize = .ok u ↔
      u.scheme = Text.lower p.scheme ∧
      escapePart keepsInUserinfo (Authority.ofText p.authority).userinfo = .ok u.userinfo ∧
      normalizeHost (Authority.ofText p.authority).host = .ok u.host ∧
      normalizePort p.scheme (Authority.ofText p.authority).port = .ok u.port? ∧
      checkPath (!u.scheme.isEmpty) u.hasAuthority p.path = .ok () ∧
      escapePart keepsInPath
        (if !u.scheme.isEmpty || u.hasAuthority then normalizePath p.path else p.path)
          = .ok u.rawPath ∧
      escapePart? keepsInQuery p.query? = .ok u.rawQuery? ∧
      escapePart? keepsInFragment p.fragment? = .ok u.rawFragment? := by
  rw [Parts.normalize]
  simp only [bind_eq_ok_iff]
  constructor
  · rintro ⟨userinfo, huser, host, hhost, port, hport, ⟨⟩, hcheck, path, hpath, query, hquery,
      fragment, hfragment, hu⟩
    cases hu
    exact ⟨rfl, huser, hhost, hport, hcheck, hpath, hquery, hfragment⟩
  · rintro ⟨hscheme, huser, hhost, hport, hcheck, hpath, hquery, hfragment⟩
    rw [hscheme] at hcheck hpath
    refine ⟨u.userinfo, huser, u.host, hhost, u.port?, hport, (), hcheck, u.rawPath, hpath,
      u.rawQuery?, hquery, u.rawFragment?, hfragment, ?_⟩
    rw [← hscheme]
    rfl

/-! ## 2. What is cut out of a text -/

/-- The parts of an address as a text without invisible characters gives them. -/
structure Parts.Cut (p : Parts) : Prop where
  scheme : ∀ c ∈ p.scheme, isSchemeChar c = true
  schemeHead : p.scheme.head?.all CodePoint.isAsciiLetter = true
  authority : ∀ c ∈ p.authority, isVisible c = true ∧ isAuthorityChar c = true

theorem cutScheme_spec (t : Text) :
    (∀ c ∈ (cutScheme t).1, isSchemeChar c = true) ∧
      (cutScheme t).1.head?.all CodePoint.isAsciiLetter = true ∧ (cutScheme t).2 ⊆ t := by
  have hnone : (∀ c ∈ ([] : Text), isSchemeChar c = true) ∧
      (([] : Text).head?.all CodePoint.isAsciiLetter) = true ∧ t ⊆ t :=
    ⟨fun _ hc => absurd hc List.not_mem_nil, rfl, List.Subset.refl t⟩
  rw [cutScheme]
  split
  · next colon rest hdrop =>
    split
    · next h =>
      refine ⟨fun c hc => List.mem_takeWhile_imp hc, h.1, fun c hc => ?_⟩
      have hmem : c ∈ t.dropWhile isSchemeChar := by
        rw [hdrop]
        exact List.mem_cons_of_mem _ hc
      exact (List.dropWhile_sublist _).subset hmem
    · exact hnone
  · exact hnone

theorem cutAuthority_spec (t : Text) :
    ∀ c ∈ (cutAuthority t).1, c ∈ t ∧ isAuthorityChar c = true := by
  rw [cutAuthority]
  split
  · next rest hrest =>
    rw [Text.dropStart?_eq_some_iff] at hrest
    intro c hc
    rw [List.span_eq_takeWhile_dropWhile] at hc
    refine ⟨?_, List.mem_takeWhile_imp hc⟩
    rw [hrest]
    exact List.mem_append_right _ ((List.takeWhile_sublist _).subset hc)
  · exact fun _ hc => absurd hc List.not_mem_nil

theorem Parts.cut_ofText {t : Text} (h : ∀ c ∈ t, isVisible c = true) : (Parts.ofText t).Cut where
  scheme := (cutScheme_spec t).1
  schemeHead := (cutScheme_spec t).2.1
  authority c hc :=
    have hcut := cutAuthority_spec (cutScheme t).2 c hc
    ⟨h c ((cutScheme_spec t).2.2 hcut.1), hcut.2⟩

/-! ## 3. What normalising leaves -/

/-- An address whose parts are in their written form. -/
structure Written (u : Url) : Prop where
  scheme : ∀ c ∈ u.scheme, isSchemeChar c = true
  schemeHead : u.scheme.head?.all CodePoint.isAsciiLetter = true
  userinfo : ∀ c ∈ u.userinfo, keepsInUserinfo c = true
  host : HostForm u.host
  port : ∀ n ∈ u.port?, Integer.isWritable n = true
  path : ∀ c ∈ u.rawPath, keepsInPath c = true
  query : ∀ q ∈ u.rawQuery?, ∀ c ∈ q, keepsInQuery c = true
  fragment : ∀ f ∈ u.rawFragment?, ∀ c ∈ f, keepsInFragment c = true

theorem keepsAllBut_iff {excluded : Text} {c : CodePoint} :
    keepsAllBut excluded c = true ↔
      isUnreserved c = true ∨ (0x20 ≤ c.val ∧ c.val < 0x7F) ∧ c ∉ excluded := by
  rw [keepsAllBut, Bool.or_eq_true, Bool.and_eq_true, Bool.and_eq_true, decide_eq_true_eq,
    decide_eq_true_eq, decide_eq_true_eq]

/-- Escapes stand for themselves wherever the percent sign does. -/
theorem keepsAllBut_of_isEscapeChar {excluded : Text} (h : keepsAllBut excluded '%' = true)
    {c : CodePoint} (hc : isEscapeChar c = true) : keepsAllBut excluded c = true := by
  rcases isEscapeChar_iff.mp hc with hp | ha
  · have he : c = '%' := CodePoint.ext hp
    rw [he]
    exact h
  · exact keepsAllBut_iff.mpr (Or.inl (isUnreserved_iff.mpr (Or.inl ha)))

theorem escapePart_eq_ok_iff {keeps : CodePoint → Bool} {t e : Text} :
    escapePart keeps t = .ok e ↔ escape keeps t = .ok e := by
  rw [escapePart]
  cases escape keeps t with
  | error u =>
    constructor
    · intro h
      cases h
    · intro h
      cases h
  | ok written =>
    constructor
    · intro h
      cases h
      rfl
    · intro h
      cases h
      rfl

/-- A part that has been escaped needs no escape again. -/
theorem keepsAllBut_of_escapePart {excluded t e : Text} (hp : keepsAllBut excluded '%' = true)
    (h : escapePart (keepsAllBut excluded) t = .ok e) : ∀ c ∈ e, keepsAllBut excluded c = true :=
  keeps_of_mem_escape (fun _ => keepsAllBut_of_isEscapeChar hp) (escapePart_eq_ok_iff.mp h)

theorem keepsAllBut_of_escapePart? {excluded : Text} {t? e? : Option Text}
    (hp : keepsAllBut excluded '%' = true)
    (h : escapePart? (keepsAllBut excluded) t? = .ok e?) :
    ∀ e ∈ e?, ∀ c ∈ e, keepsAllBut excluded c = true := by
  cases t? with
  | none => cases h; exact fun _ he => nomatch he
  | some t =>
    rw [escapePart?] at h
    cases hesc : escapePart (keepsAllBut excluded) t with
    | error r => rw [hesc] at h; cases h
    | ok written =>
      rw [hesc] at h
      cases h
      intro e he
      cases he
      exact keepsAllBut_of_escapePart hp hesc

theorem isSchemeChar_iff {c : CodePoint} :
    isSchemeChar c = true ↔
      c.isAsciiAlphanumeric = true ∨ c.val = 0x2B ∨ c.val = 0x2D ∨ c.val = 0x2E := by
  simp only [isSchemeChar, Bool.or_eq_true, beq_iff_eq, or_assoc]

theorem isAscii_of_isSchemeChar {c : CodePoint} (h : isSchemeChar c = true) :
    c.isAscii = true := by
  rw [isSchemeChar_iff, CodePoint.isAsciiAlphanumeric_iff] at h
  rw [CodePoint.isAscii_iff]
  omega

/-- A scheme in lower case is a scheme. -/
theorem scheme_lower {scheme : Text} (h : ∀ c ∈ scheme, isSchemeChar c = true)
    (hhead : scheme.head?.all CodePoint.isAsciiLetter = true) :
    (∀ c ∈ Text.lower scheme, isSchemeChar c = true) ∧
      (Text.lower scheme).head?.all CodePoint.isAsciiLetter = true := by
  rw [Text.lower_of_isAscii fun c hc => isAscii_of_isSchemeChar (h c hc)]
  constructor
  · intro c hc
    obtain ⟨d, hd, rfl⟩ := List.mem_map.mp hc
    rcases CodePoint.toLower_of_isAscii (isAscii_of_isSchemeChar (h d hd)) with ⟨hu, hv⟩ | ⟨-, he⟩
    · rw [CodePoint.isAsciiUpper_iff] at hu
      rw [isSchemeChar_iff, CodePoint.isAsciiAlphanumeric_iff, hv]
      omega
    · rw [he]; exact h d hd
  · cases scheme with
    | nil => rfl
    | cons c rest =>
      have hc : c.isAsciiLetter = true := hhead
      have hascii := isAscii_of_isSchemeChar (h c List.mem_cons_self)
      show c.toLower.isAsciiLetter = true
      rcases CodePoint.toLower_of_isAscii hascii with ⟨hu, hv⟩ | ⟨-, he⟩
      · rw [CodePoint.isAsciiUpper_iff] at hu
        rw [CodePoint.isAsciiLetter_iff, hv]
        omega
      · rw [he]; exact hc

theorem port_of_normalizePort {scheme port : Text} {port? : Option Int}
    (h : normalizePort scheme port = .ok port?) : ∀ n ∈ port?, Integer.isWritable n = true := by
  rw [normalizePort] at h
  split at h
  · cases h
    exact fun _ hn => nomatch hn
  · split at h
    · cases h
    · next n hread =>
      cases h
      intro m hm
      split at hm
      · cases hm
      · cases hm
        exact Integer.isWritable_of_read hread

/-- The host of an authority has no at sign: the last one ends the user information. -/
theorem host_chars {authority : Text}
    (h : ∀ c ∈ authority, isVisible c = true ∧ isAuthorityChar c = true) :
    ∀ c ∈ (Authority.ofText authority).host, isHostChar c = true := by
  have hcutHost : ∀ (t : Text), (cutHost t).1 ⊆ t := by
    intro t c hc
    rw [cutHost] at hc
    split at hc
    · split at hc
      · next inside rest hcut =>
        rw [(Text.cutLast?_eq_some hcut).1]
        rcases List.mem_append.mp hc with hc | hc
        · exact List.mem_append_left _ hc
        · rw [List.mem_singleton.mp hc]
          exact List.mem_append_right _ List.mem_cons_self
      · rw [List.span_eq_takeWhile_dropWhile] at hc
        exact (List.takeWhile_sublist _).subset hc
    · rw [List.span_eq_takeWhile_dropWhile] at hc
      exact (List.takeWhile_sublist _).subset hc
  intro c hc
  have hrest : c ∈ ((Text.cutLast? '@' authority).getD ([], authority)).2 := hcutHost _ hc
  have hmem : c ∈ authority ∧ c ≠ '@' := by
    cases hcut : Text.cutLast? '@' authority with
    | none =>
      rw [hcut] at hrest
      refine ⟨hrest, fun he => ?_⟩
      rw [he] at hrest
      exact Text.cutLast?_eq_none_iff.mp hcut hrest
    | some parts =>
      obtain ⟨userinfo, rest⟩ := parts
      rw [hcut] at hrest
      obtain ⟨heq, hnot⟩ := Text.cutLast?_eq_some hcut
      refine ⟨?_, fun he => hnot (he ▸ hrest)⟩
      rw [heq]
      exact List.mem_append_right _ (List.mem_cons_of_mem _ hrest)
  obtain ⟨hv, ha⟩ := h c hmem.1
  have hat : (c.val != 0x40) = true := by
    rw [bne_iff_ne]
    exact fun he => hmem.2 (CodePoint.ext he)
  rw [isHostChar, hv, ha, hat]
  rfl

/-- **Every address is in its written form.** -/
theorem written_of_normalize {p : Parts} {u : Url} (hp : p.Cut) (h : p.normalize = .ok u) :
    Written u := by
  obtain ⟨hscheme, huser, hhost, hport, -, hpath, hquery, hfragment⟩ :=
    Parts.normalize_eq_ok_iff.mp h
  obtain ⟨hchars, hhead⟩ := scheme_lower hp.scheme hp.schemeHead
  exact {
    scheme := by rw [hscheme]; exact hchars
    schemeHead := by rw [hscheme]; exact hhead
    userinfo := keepsAllBut_of_escapePart (by decide) huser
    host := hostForm_of_normalizeHost (host_chars hp.authority) hhost
    port := port_of_normalizePort hport
    path := keepsAllBut_of_escapePart (by decide) hpath
    query := keepsAllBut_of_escapePart? (by decide) hquery
    fragment := keepsAllBut_of_escapePart? (by decide) hfragment }

/-- An address is read only from visible characters, so it is in its written form too. -/
theorem written_of_parse {t : Text} {u : Url} (h : parse t = .ok u) : Written u := by
  rw [parse] at h
  split at h
  · cases h
  · split at h
    · cases h
    · next hvisible =>
      exact written_of_normalize (Parts.cut_ofText (unprintable?_eq_none_iff.mp hvisible)) h

/-! ## 4. The authority is cut apart as it was put together -/

/-- The port of an authority, with its colon. -/
def portText : Option Int → Text
  | none => []
  | some port => ":" ++ Integer.write port

/-- The user information of an authority, with its at sign. -/
def userinfoText (userinfo : Text) : Text :=
  if userinfo.isEmpty then [] else userinfo ++ ("@" : Text)

theorem authority_eq (u : Url) :
    u.authority = userinfoText u.userinfo ++ (writtenHost u.host ++ portText u.port?) := by
  have hport : u.authority = userinfoText u.userinfo ++ writtenHost u.host ++ portText u.port? := by
    rw [authority, userinfoText, writtenHost]
    cases u.port? with
    | none => rfl
    | some port => rfl
  rw [hport, List.append_assoc]

theorem isVisible_of_keepsAllBut {excluded : Text} {c : CodePoint}
    (h : keepsAllBut excluded c = true) : isVisible c = true := by
  rw [keepsAllBut_iff, isUnreserved_iff, CodePoint.isAsciiAlphanumeric_iff] at h
  rw [isVisible_iff]
  omega

/-- A delimiter that has to be escaped does not stand for itself. -/
theorem ne_of_keepsAllBut {excluded : Text} {c d : CodePoint} (h : keepsAllBut excluded c = true)
    (hd : isUnreserved d = false) (hmem : d ∈ excluded) : c ≠ d := by
  rintro rfl
  rcases keepsAllBut_iff.mp h with hu | ⟨-, hnot⟩
  · rw [hd] at hu
    exact Bool.false_ne_true hu
  · exact hnot hmem

theorem isAuthorityChar_iff {c : CodePoint} :
    isAuthorityChar c = true ↔ c.val ≠ 0x2F ∧ c.val ≠ 0x3F ∧ c.val ≠ 0x23 := by
  rw [isAuthorityChar, Bool.and_eq_true, Bool.and_eq_true, bne_iff_ne, bne_iff_ne, bne_iff_ne,
    and_assoc]

theorem isHostChar_iff {c : CodePoint} :
    isHostChar c = true ↔ isVisible c = true ∧ isAuthorityChar c = true ∧ c.val ≠ 0x40 := by
  rw [isHostChar, Bool.and_eq_true, Bool.and_eq_true, bne_iff_ne, and_assoc]

theorem isHostChar_of_keepsInUserinfo {c : CodePoint} (h : keepsInUserinfo c = true) :
    isHostChar c = true := by
  rw [isHostChar_iff, isAuthorityChar_iff]
  refine ⟨isVisible_of_keepsAllBut h, ⟨?_, ?_, ?_⟩, ?_⟩
  · exact fun e => ne_of_keepsAllBut h (d := '/') (by decide) (by decide) (CodePoint.ext e)
  · exact fun e => ne_of_keepsAllBut h (d := '?') (by decide) (by decide) (CodePoint.ext e)
  · exact fun e => ne_of_keepsAllBut h (d := '#') (by decide) (by decide) (CodePoint.ext e)
  · exact fun e => ne_of_keepsAllBut h (d := '@') (by decide) (by decide) (CodePoint.ext e)

theorem isHostChar_of_hostForm {host : Text} (h : HostForm host) :
    ∀ c ∈ writtenHost host, isHostChar c = true := by
  intro c hc
  cases h with
  | plain keeps =>
    rw [writtenHost_of_keeps keeps] at hc
    have hb := bounds_of_keepsInHost (keeps c hc)
    rw [isHostChar_iff, isAuthorityChar_iff, isVisible_iff]
    omega
  | bracketed ipv6 chars =>
    rw [writtenHost_of_isIpv6 ipv6, List.mem_cons, List.mem_append, List.mem_singleton] at hc
    rcases hc with rfl | hc | rfl
    · decide
    · exact chars c hc
    · decide

/-- A port is a colon and a written integer. -/
theorem mem_portText {port? : Option Int} {c : CodePoint} (h : c ∈ portText port?) :
    c.val = 0x3A ∨ (0x30 ≤ c.val ∧ c.val ≤ 0x39) ∨ c.val = 0x2D := by
  cases port? with
  | none => exact absurd h List.not_mem_nil
  | some port =>
    rcases List.mem_cons.mp h with h | h
    · rw [h]; exact Or.inl rfl
    · have hw := Integer.isWritten_of_mem_write h
      rw [Integer.isWritten, Bool.or_eq_true, CodePoint.isAsciiDigit_iff, beq_iff_eq] at hw
      exact Or.inr hw

theorem isHostChar_of_mem_portText {port? : Option Int} :
    ∀ c ∈ portText port?, isHostChar c = true := by
  intro c hc
  have hp := mem_portText hc
  rw [isHostChar_iff, isAuthorityChar_iff, isVisible_iff]
  omega

/-- The host of a written authority is found where it stands. -/
theorem cutHost_written {host : Text} (h : HostForm host) (port? : Option Int) :
    cutHost (writtenHost host ++ portText port?) = (writtenHost host, portText port?) := by
  cases h with
  | plain keeps =>
    rw [writtenHost_of_keeps keeps, cutHost]
    have hhead : (host ++ portText port?).head? ≠ some (CodePoint.ofChar '[') := by
      intro he
      rcases List.mem_append.mp (List.mem_of_mem_head? he) with hc | hc
      · exact (bounds_of_keepsInHost (keeps _ hc)).2.2.2.2.2.2.2.1 rfl
      · exact absurd (mem_portText hc) (by decide)
    rw [if_neg hhead]
    refine Text.span_append (fun c hc => ?_) fun c hc => ?_
    · have hb := bounds_of_keepsInHost (keeps c hc)
      rw [Bool.and_eq_true, bne_iff_ne, bne_iff_ne]
      omega
    · cases port? with
      | none => cases hc
      | some port =>
        cases hc
        rfl
  | bracketed ipv6 chars =>
    have hnot : CodePoint.ofChar ']' ∉ portText port? := fun hmem =>
      absurd (mem_portText hmem) (by decide)
    have hsplit : CodePoint.ofChar '[' :: (host ++ [CodePoint.ofChar ']']) ++ portText port?
        = (CodePoint.ofChar '[' :: host) ++ CodePoint.ofChar ']' :: portText port? := by simp
    rw [writtenHost_of_isIpv6 ipv6, cutHost, hsplit, Text.cutLast?_append_cons _ hnot]
    rfl

theorem dropStart?_portText (port? : Option Int) :
    (Text.dropStart? ":" (portText port?)).getD (portText port?)
      = (port?.map Integer.write).getD [] := by
  cases port? with
  | none => rfl
  | some port => rfl

/-- **A written authority is cut into its user information, host and port.** -/
theorem Authority.ofText_authority {u : Url} (h : Written u) :
    Authority.ofText u.authority
      = ⟨u.userinfo, writtenHost u.host, (u.port?.map Integer.write).getD []⟩ := by
  have hnot : CodePoint.ofChar '@' ∉ writtenHost u.host ++ portText u.port? := by
    intro hmem
    rcases List.mem_append.mp hmem with hc | hc
    · exact (isHostChar_iff.mp (isHostChar_of_hostForm h.host _ hc)).2.2 rfl
    · exact (isHostChar_iff.mp (isHostChar_of_mem_portText _ hc)).2.2 rfl
  have hcut : (Text.cutLast? '@' u.authority).getD ([], u.authority)
      = (u.userinfo, writtenHost u.host ++ portText u.port?) := by
    rw [authority_eq, userinfoText]
    cases huser : u.userinfo with
    | nil =>
      rw [List.isEmpty_nil, if_pos rfl, List.nil_append, Text.cutLast?_eq_none_iff.mpr hnot]
      rfl
    | cons c rest =>
      have hassoc : (c :: rest) ++ ("@" : Text) ++ (writtenHost u.host ++ portText u.port?)
          = (c :: rest) ++ CodePoint.ofChar '@' :: (writtenHost u.host ++ portText u.port?) :=
        List.append_assoc _ _ _
      rw [List.isEmpty_cons, if_neg Bool.false_ne_true, hassoc,
        Text.cutLast?_append_cons _ hnot]
      rfl
  rw [Authority.ofText, hcut]
  simp only [cutHost_written h.host, dropStart?_portText]

/-- The characters of a written authority are those that an authority is cut out with. -/
theorem Written.cut_parts {u : Url} (h : Written u) : u.parts.Cut where
  scheme := h.scheme
  schemeHead := h.schemeHead
  authority c hc := by
    have hhost : isHostChar c = true ∨ c = '@' := by
      have hc' : c ∈ u.authority := hc
      rw [authority_eq, List.mem_append, List.mem_append, userinfoText] at hc'
      rcases hc' with hc' | hc' | hc'
      · split at hc'
        · exact absurd hc' List.not_mem_nil
        · rcases List.mem_append.mp hc' with hc' | hc'
          · exact Or.inl (isHostChar_of_keepsInUserinfo (h.userinfo c hc'))
          · exact Or.inr (List.mem_singleton.mp hc')
      · exact Or.inl (isHostChar_of_hostForm h.host c hc')
      · exact Or.inl (isHostChar_of_mem_portText c hc')
    rcases hhost with hhost | rfl
    · have hi := isHostChar_iff.mp hhost
      exact ⟨hi.1, hi.2.1⟩
    · exact ⟨by decide, by decide⟩

/-! ## 5. The address is cut apart as it was put together -/

/-- The query of an address, with its question mark. -/
def queryText : Option Text → Text
  | none => []
  | some query => ("?" : Text) ++ query

/-- The fragment of an address, with its number sign. -/
def fragmentText : Option Text → Text
  | none => []
  | some fragment => ("#" : Text) ++ fragment

/-- The path is empty or begins with a slash. -/
def isRooted (path : Text) : Bool := path.isEmpty || Text.startsWith path "/"

theorem isRooted_iff {path : Text} :
    isRooted path = true ↔ path = [] ∨ ∃ rest, path = CodePoint.ofChar '/' :: rest := by
  rw [isRooted, Bool.or_eq_true, List.isEmpty_iff, Text.startsWith_iff]
  exact Iff.rfl

theorem authority_ne_nil {u : Url} (h : u.host ≠ []) : u.authority ≠ [] := by
  intro he
  rw [authority_eq, List.append_eq_nil_iff, List.append_eq_nil_iff, writtenHost] at he
  obtain ⟨-, hhost, -⟩ := he
  split at hhost
  · cases hhost
  · exact h hhost

theorem toText_eq {u : Url} (hscheme : u.scheme ≠ []) (hhost : u.host ≠ []) :
    u.toText = u.scheme ++ CodePoint.ofChar ':' :: (("//" : Text) ++ (u.authority ++
      (u.rawPath ++ queryText u.rawQuery? ++ fragmentText u.rawFragment?))) := by
  have hs : u.scheme.isEmpty = false := List.isEmpty_eq_false_iff.mpr hscheme
  have ha : u.authority.isEmpty = false := List.isEmpty_eq_false_iff.mpr (authority_ne_nil hhost)
  have htail : u.toText = (u.scheme ++ (":" : Text)) ++ (("//" : Text) ++ u.authority) ++
      u.rawPath ++ queryText u.rawQuery? ++ fragmentText u.rawFragment? := by
    rw [toText, hs, ha, if_neg Bool.false_ne_true, if_neg Bool.false_ne_true]
    cases u.rawQuery? with
    | none => cases u.rawFragment? with
      | none => rfl
      | some fragment => rfl
    | some query => cases u.rawFragment? with
      | none => rfl
      | some fragment => rfl
  rw [htail]
  simp only [List.append_assoc]
  rfl

theorem cutScheme_append {scheme : Text} (rest : Text)
    (h : ∀ c ∈ scheme, isSchemeChar c = true)
    (hhead : scheme.head?.all CodePoint.isAsciiLetter = true) :
    cutScheme (scheme ++ CodePoint.ofChar ':' :: rest) = (scheme, rest) := by
  have htake : (scheme ++ CodePoint.ofChar ':' :: rest).takeWhile isSchemeChar = scheme := by
    rw [List.takeWhile_append_of_pos h, List.takeWhile_cons_of_neg (by decide), List.append_nil]
  have hdrop : (scheme ++ CodePoint.ofChar ':' :: rest).dropWhile isSchemeChar
      = CodePoint.ofChar ':' :: rest := by
    rw [List.dropWhile_append_of_pos h, List.dropWhile_cons_of_neg (by decide)]
  rw [cutScheme, htake, hdrop]
  exact if_pos ⟨hhead, rfl⟩

theorem cutAuthority_append {authority rest : Text}
    (h : ∀ c ∈ authority, isAuthorityChar c = true)
    (hrest : ∀ c ∈ rest.head?, isAuthorityChar c = false) :
    cutAuthority (("//" : Text) ++ (authority ++ rest)) = (authority, rest) := by
  rw [cutAuthority, Text.dropStart?_eq_some_iff.mpr rfl]
  exact Text.span_append h hrest

/-- After a rooted path comes the end, a question mark or a number sign. -/
theorem head?_tail {path : Text} (h : isRooted path = true) (query? fragment? : Option Text) :
    ∀ c ∈ (path ++ queryText query? ++ fragmentText fragment?).head?,
      isAuthorityChar c = false := by
  rcases isRooted_iff.mp h with rfl | ⟨rest, rfl⟩
  · cases query? with
    | none => cases fragment? with
      | none => exact fun _ hc => nomatch hc
      | some fragment =>
        intro c hc
        cases hc
        rfl
    | some query =>
      intro c hc
      cases hc
      rfl
  · intro c hc
    cases hc
    rfl

/-- A part that escapes a character does not hold it. -/
theorem notMem_of_keepsAllBut {excluded t : Text} {d : CodePoint}
    (h : ∀ c ∈ t, keepsAllBut excluded c = true) (hd : isUnreserved d = false)
    (hmem : d ∈ excluded) : d ∉ t := fun ht => ne_of_keepsAllBut (h d ht) hd hmem rfl

/-- The number sign before a fragment is found. -/
theorem cut?_fragment {t : Text} (h : CodePoint.ofChar '#' ∉ t) (fragment? : Option Text) :
    Text.cut? '#' (t ++ fragmentText fragment?) = fragment?.map fun fragment => (t, fragment) := by
  cases fragment? with
  | none => rw [fragmentText, List.append_nil, Text.cut?_of_notMem h]; rfl
  | some fragment => exact Text.cut?_append_cons fragment h

/-- The question mark before a query is found. -/
theorem cut?_query {t : Text} (h : CodePoint.ofChar '?' ∉ t) (query? : Option Text) :
    Text.cut? '?' (t ++ queryText query?) = query?.map fun query => (t, query) := by
  cases query? with
  | none => rw [queryText, List.append_nil, Text.cut?_of_notMem h]; rfl
  | some query => exact Text.cut?_append_cons query h

/-- **A written address is cut into its parts.** -/
theorem Parts.ofText_toText {u : Url} (h : Written u) (hscheme : u.scheme ≠ [])
    (hhost : u.host ≠ []) (hpath : isRooted u.rawPath = true) :
    Parts.ofText u.toText = u.parts := by
  have hnumber : CodePoint.ofChar '#' ∉ u.rawPath ++ queryText u.rawQuery? := by
    intro hmem
    rcases List.mem_append.mp hmem with hc | hc
    · exact notMem_of_keepsAllBut h.path (by decide) (by decide) hc
    · cases hq : u.rawQuery? with
      | none => rw [hq] at hc; exact absurd hc List.not_mem_nil
      | some query =>
        rw [hq] at hc
        rcases List.mem_cons.mp hc with hc | hc
        · exact absurd hc (by decide)
        · exact notMem_of_keepsAllBut (h.query query hq) (by decide) (by decide) hc
  have hquestion : CodePoint.ofChar '?' ∉ u.rawPath :=
    notMem_of_keepsAllBut h.path (by decide) (by decide)
  have hauthority : ∀ c ∈ u.authority, isAuthorityChar c = true := fun c hc =>
    (h.cut_parts.authority c hc).2
  rw [toText_eq hscheme hhost, Parts.ofText, cutScheme_append _ h.scheme h.schemeHead]
  simp only [cutAuthority_append hauthority (head?_tail hpath u.rawQuery? u.rawFragment?),
    cut?_fragment hnumber]
  have hquery := cut?_query hquestion u.rawQuery?
  have hparts : u.parts = ⟨u.scheme, u.authority, u.rawPath, u.rawQuery?, u.rawFragment?⟩ := rfl
  rw [hparts]
  -- with a fragment or without one, the query is cut from the same text
  cases u.rawFragment? with
  | none =>
    simp only [Option.map_none, fragmentText, List.append_nil, hquery]
    cases u.rawQuery? with
    | none => simp only [Option.map_none, queryText, List.append_nil]
    | some query => rfl
  | some fragment =>
    simp only [Option.map_some, hquery]
    cases u.rawQuery? with
    | none => simp only [Option.map_none, queryText, List.append_nil]
    | some query => rfl

/-- A written address holds visible characters only. -/
theorem isVisible_of_mem_toText {u : Url} (h : Written u) (hscheme : u.scheme ≠ [])
    (hhost : u.host ≠ []) : ∀ c ∈ u.toText, isVisible c = true := by
  intro c hc
  rw [toText_eq hscheme hhost] at hc
  simp only [List.mem_append, List.mem_cons] at hc
  rcases hc with hc | rfl | hc | hc | (hc | hc) | hc
  · have hs := h.scheme c hc
    rw [isSchemeChar_iff, CodePoint.isAsciiAlphanumeric_iff] at hs
    rw [isVisible_iff]
    omega
  · decide
  · have hall : ∀ d ∈ ("//" : Text), isVisible d = true := by decide
    exact hall c hc
  · exact (h.cut_parts.authority c hc).1
  · exact isVisible_of_keepsAllBut (h.path c hc)
  · cases hq : u.rawQuery? with
    | none => rw [hq] at hc; exact absurd hc List.not_mem_nil
    | some query =>
      rw [hq] at hc
      rcases List.mem_cons.mp hc with rfl | hc
      · decide
      · exact isVisible_of_keepsAllBut (h.query query hq c hc)
  · cases hf : u.rawFragment? with
    | none => rw [hf] at hc; exact absurd hc List.not_mem_nil
    | some fragment =>
      rw [hf] at hc
      rcases List.mem_cons.mp hc with rfl | hc
      · decide
      · exact isVisible_of_keepsAllBut (h.fragment fragment hf c hc)

/-! ## 6. Reading a written address -/

/-- The path has no segment that would be taken away. -/
def isDotFree (path : Text) : Prop :=
  ∀ segment ∈ Text.splitOn '/' path, segment ≠ "." ∧ segment ≠ ".."

/-- Two paths with a slash between them have the segments of both. -/
theorem isDotFree_append {a b : Text} (ha : isDotFree a) (hb : isDotFree b) :
    isDotFree (a ++ CodePoint.ofChar '/' :: b) := by
  intro segment hsegment
  rw [Text.splitOn_append_cons] at hsegment
  rcases List.mem_append.mp hsegment with hs | hs
  · exact ha segment hs
  · exact hb segment hs

/-- A path without dot segments stays as it is. -/
theorem normalizePath_of_isDotFree {path : Text} (h : isDotFree path) :
    normalizePath path = path := by
  have hresolve : ∀ (segments done : List Text),
      (∀ segment ∈ segments, segment ≠ "." ∧ segment ≠ "..") →
      resolveDots done segments = done.reverse ++ segments := by
    intro segments
    induction segments with
    | nil => intro done _; rw [resolveDots, List.append_nil]
    | cons segment rest ih =>
      intro done hs
      obtain ⟨hone, htwo⟩ := hs segment List.mem_cons_self
      rw [resolveDots, if_neg hone, if_neg htwo,
        ih _ fun q hq => hs q (List.mem_cons_of_mem _ hq), List.reverse_cons, List.append_assoc]
      rfl
  rw [normalizePath, hresolve _ [] h]
  exact Text.join_splitOn '/' path

/-- A written port is read back; the one that the scheme implies is dropped. -/
theorem normalizePort_written (scheme : Text) {port? : Option Int}
    (h : ∀ n ∈ port?, Integer.isWritable n = true) :
    ∃ again, normalizePort scheme ((port?.map Integer.write).getD []) = .ok again := by
  cases port? with
  | none => exact ⟨none, rfl⟩
  | some port =>
    have hne : (Integer.write port).isEmpty = false :=
      List.isEmpty_eq_false_iff.mpr (Integer.write_ne_nil port)
    show ∃ again, normalizePort scheme (Integer.write port) = .ok again
    rw [normalizePort, hne, Integer.read_write (h port rfl)]
    exact ⟨_, rfl⟩

theorem escapePart_of_keeps {keeps : CodePoint → Bool} {t : Text} (h : ∀ c ∈ t, keeps c = true) :
    escapePart keeps t = .ok t := escapePart_eq_ok_iff.mpr (escape_of_keeps h)

theorem escapePart?_of_keeps {keeps : CodePoint → Bool} {t? : Option Text}
    (h : ∀ t ∈ t?, ∀ c ∈ t, keeps c = true) : escapePart? keeps t? = .ok t? := by
  cases t? with
  | none => rfl
  | some t => rw [escapePart?, escapePart_of_keeps (h t rfl)]; rfl

/-- With a scheme, a rooted path is all that is asked for. -/
theorem checkPath_of_isRooted (hasAuthority : Bool) {path : Text} (h : isRooted path = true) :
    checkPath true hasAuthority path = .ok () := by
  rw [checkPath]
  split
  · exact if_pos h
  · exact if_pos rfl

/-- **A written address is read back.**  Its path, query and fragment are what they were. -/
theorem parse_toText {u : Url} (h : Written u) (hscheme : u.scheme ≠ []) (hhost : u.host ≠ [])
    (hpath : isRooted u.rawPath = true) (hdots : isDotFree u.rawPath)
    (hagain : ∃ again, normalizeHost (writtenHost u.host) = .ok again)
    (hlength : u.toText.length ≤ maxLength) :
    ∃ v, parse u.toText = .ok v ∧ v.rawPath = u.rawPath ∧ v.rawQuery? = u.rawQuery? ∧
      v.rawFragment? = u.rawFragment? := by
  obtain ⟨host, hhost'⟩ := hagain
  obtain ⟨port?, hport⟩ := normalizePort_written u.scheme h.port
  have hlower : (Text.lower u.scheme).isEmpty = false := by
    rw [Text.lower_of_isAscii fun c hc => isAscii_of_isSchemeChar (h.scheme c hc)]
    rw [List.isEmpty_eq_false_iff, ne_eq, List.map_eq_nil_iff]
    exact hscheme
  let v : Url := ⟨Text.lower u.scheme, u.userinfo, host, port?, u.rawPath, u.rawQuery?,
    u.rawFragment?⟩
  have hnormal : u.parts.normalize = .ok v := by
    rw [Parts.normalize_eq_ok_iff]
    have hauthority : Authority.ofText u.parts.authority
        = ⟨u.userinfo, writtenHost u.host, (u.port?.map Integer.write).getD []⟩ :=
      Authority.ofText_authority h
    rw [hauthority]
    have hv : (!v.scheme.isEmpty) = true := by
      show (!(Text.lower u.scheme).isEmpty) = true
      rw [hlower]
      rfl
    have hsame : normalizePath u.parts.path = u.rawPath := normalizePath_of_isDotFree hdots
    rw [hv, Bool.true_or, if_pos rfl, hsame]
    exact ⟨rfl, escapePart_of_keeps h.userinfo, hhost', hport, checkPath_of_isRooted _ hpath,
      escapePart_of_keeps h.path, escapePart?_of_keeps h.query, escapePart?_of_keeps h.fragment⟩
  refine ⟨v, ?_, rfl, rfl, rfl⟩
  have hvisible := unprintable?_eq_none_iff.mpr (isVisible_of_mem_toText h hscheme hhost)
  rw [parse, if_neg (Nat.not_lt.mpr hlength), hvisible]
  show (Parts.ofText u.toText).normalize = .ok v
  rw [Parts.ofText_toText h hscheme hhost hpath]
  exact hnormal

/-! ## 7. Another target -/

theorem hasAuthority_of_host {u : Url} (h : u.host ≠ []) : u.hasAuthority = true := by
  rw [hasAuthority, List.isEmpty_eq_false_iff.mpr h, Bool.not_false, Bool.or_true, Bool.true_or]

/-- What `withTarget` leaves of a written address, for a target that needs no further escape. -/
theorem withTarget_eq_ok {u v : Url} {path query : Text} (h : Written u) (hscheme : u.scheme ≠ [])
    (hhost : u.host ≠ []) (hpath : ∀ c ∈ path, keepsInPath c = true) (hdots : isDotFree path)
    (hquery : ∀ c ∈ query, keepsInQuery c = true) (hv : u.withTarget path query = .ok v) :
    Written v ∧ v.scheme ≠ [] ∧ v.host ≠ [] ∧ v.rawPath = path ∧ v.rawQuery? = some query ∧
      isRooted path = true ∧ ∃ again, normalizeHost (writtenHost v.host) = .ok again := by
  rw [withTarget] at hv
  simp only at hv
  split at hv
  · cases hv
  · have hcut : ({ u.parts with path := path, query? := some query } : Parts).Cut :=
      ⟨h.cut_parts.scheme, h.cut_parts.schemeHead, h.cut_parts.authority⟩
    have hwritten : Written v := written_of_normalize hcut hv
    obtain ⟨hs, -, hnormal, -, hcheck, hp, hq, -⟩ := Parts.normalize_eq_ok_iff.mp hv
    have hauthority : (Authority.ofText u.authority).host = writtenHost u.host := by
      rw [Authority.ofText_authority h]
    obtain ⟨-, hsame, hagain⟩ := normalizeHost_again h.host (hauthority ▸ hnormal)
    have hvhost : v.host ≠ [] := by
      rcases hsame with he | he
      · rw [he]; exact hhost
      · rw [he]; exact fun hnil => hhost (Text.lower_eq_nil_iff.mp hnil)
    have hvscheme : v.scheme ≠ [] := by
      rw [hs]
      exact fun hnil => hscheme (Text.lower_eq_nil_iff.mp hnil)
    rw [hasAuthority_of_host hvhost] at hcheck hp
    rw [Bool.or_true, if_pos rfl, normalizePath_of_isDotFree hdots, escapePart_of_keeps hpath] at hp
    rw [escapePart?, escapePart_of_keeps hquery] at hq
    refine ⟨hwritten, hvscheme, hvhost, ?_, ?_, ?_, hagain⟩
    · exact (Except.ok.inj hp).symm
    · exact (Except.ok.inj hq).symm
    · rw [checkPath, if_pos rfl] at hcheck
      by_contra hrooted
      rw [← isRooted, if_neg hrooted] at hcheck
      cases hcheck

/-- The scheme of an address is in lower case. -/
theorem lower_scheme_of_parse {t : Text} {u : Url} (h : parse t = .ok u) :
    Text.lower u.scheme = u.scheme := by
  rw [parse] at h
  split at h
  · cases h
  · split at h
    · cases h
    · rw [(Parts.normalize_eq_ok_iff.mp h).1]
      exact Text.lower_lower _

/-- A written port stays, unless it is the one that the scheme implies. -/
theorem port_again {scheme : Text} {port? again? : Option Int}
    (hwritable : ∀ n ∈ port?, Integer.isWritable n = true)
    (h : normalizePort scheme ((port?.map Integer.write).getD []) = .ok again?) :
    again? = port? ∨ again? = none ∧ port? = defaultPort? scheme := by
  cases port? with
  | none =>
    cases h
    exact Or.inl rfl
  | some port =>
    have hne : (Integer.write port).isEmpty = false :=
      List.isEmpty_eq_false_iff.mpr (Integer.write_ne_nil port)
    rw [Option.map_some, Option.getD_some, normalizePort, hne,
      Integer.read_write (hwritable port rfl)] at h
    cases h
    by_cases hdefault : defaultPort? scheme = some port
    · exact Or.inr ⟨if_pos hdefault, hdefault.symm⟩
    · exact Or.inl (if_neg hdefault)

/-- What another target leaves of an address: all but its path and its query, where the host may
turn into lower case and the port that the scheme implies may go. -/
structure SameSite (u v : Url) : Prop where
  scheme : v.scheme = Text.lower u.scheme
  userinfo : v.userinfo = u.userinfo
  host : v.host = u.host ∨ v.host = Text.lower u.host
  port : v.port? = u.port? ∨ v.port? = none ∧ u.port? = defaultPort? u.scheme
  fragment : v.rawFragment? = u.rawFragment?

/-- **Another target leaves the rest of an address as it is.** -/
theorem sameSite_withTarget {u v : Url} {path query : Text} (h : Written u)
    (hv : u.withTarget path query = .ok v) : SameSite u v := by
  rw [withTarget] at hv
  simp only at hv
  split at hv
  · cases hv
  · obtain ⟨hscheme, huser, hhost, hport, -, -, -, hfragment⟩ := Parts.normalize_eq_ok_iff.mp hv
    have hauthority : Authority.ofText u.parts.authority
        = ⟨u.userinfo, writtenHost u.host, (u.port?.map Integer.write).getD []⟩ :=
      Authority.ofText_authority h
    rw [hauthority] at huser hhost hport
    rw [escapePart_of_keeps h.userinfo] at huser
    have hsame : escapePart? keepsInFragment u.rawFragment? = .ok v.rawFragment? := hfragment
    rw [escapePart?_of_keeps h.fragment] at hsame
    exact ⟨hscheme, (Except.ok.inj huser).symm, (normalizeHost_again h.host hhost).2.1,
      port_again h.port hport, (Except.ok.inj hsame).symm⟩

/-- **The target of an address is read back.** -/
theorem parse_withTarget {u v : Url} {path query : Text} (h : Written u) (hscheme : u.scheme ≠ [])
    (hhost : u.host ≠ []) (hpath : ∀ c ∈ path, keepsInPath c = true) (hdots : isDotFree path)
    (hquery : ∀ c ∈ query, keepsInQuery c = true) (hv : u.withTarget path query = .ok v)
    (hlength : v.toText.length ≤ maxLength) :
    ∃ w, parse v.toText = .ok w ∧ w.rawPath = path ∧ w.rawQuery? = some query := by
  obtain ⟨hwritten, hvscheme, hvhost, hrawPath, hrawQuery, hrooted, hagain⟩ :=
    withTarget_eq_ok h hscheme hhost hpath hdots hquery hv
  obtain ⟨w, hw, hwpath, hwquery, -⟩ := parse_toText hwritten hvscheme hvhost
    (by rw [hrawPath]; exact hrooted) (by rw [hrawPath]; exact hdots) hagain hlength
  exact ⟨w, hw, hwpath.trans hrawPath, hwquery.trans hrawQuery⟩

end CloudAccess.Url
