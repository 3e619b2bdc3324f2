/-
# A spec on the screen

The sheet of a spec is marked-up text, values included.  So a value is shown as it stands only if it
does not read as markup: `render_verbatim` says what is on the screen then, character for character,
and `render_bracketed` is a spec that loses a part of its endpoint, because an address in brackets
can be a tag.

Nothing in the sheet depends on the credential but whether there is one.
-/
import CloudAccess.Proofs.Console.Page
import CloudAccess.Spec.Sheet

namespace CloudAccess.Spec

open Console

/-! ## 1. Which rows there are -/

/-- A value, or a hyphen where it is missing or empty. -/
def orHyphen (value : Option Text) : Text := (value.filter (· ≠ [])).getD "-"

/-- Stars in place of a value, or a hyphen where it is missing or empty. -/
def starsOrHyphen (value : Option Text) : Text :=
  if (value.getD []).isEmpty then "-" else "***"

/-- The full name of a component, or a hyphen where it is missing. -/
def nameOrHyphen (component : Option Component) : Text :=
  (component.map Component.typeName).getD "-"

/-- The rows that show a spec, in their order. -/
def documentedRows (s : Spec) : List (Text × Text) := [
  ("provider", s.provider),
  ("endpoint", orHyphen s.endpoint),
  ("api version", orHyphen s.apiVersion),
  ("identity", orHyphen s.identity),
  ("credential", starsOrHyphen s.credential),
  ("sync type", nameOrHyphen s.sync),
  ("async type", nameOrHyphen s.async),
  ("properties builder", nameOrHyphen s.propertiesBuilder),
  ("context builder", nameOrHyphen s.contextBuilder)]

theorem shownField_eq (value : Option Text) : shownField value = orHyphen value := by
  match value with
  | none => rfl
  | some [] => rfl
  | some (c :: rest) => rfl

theorem shownCredential_eq (credential : Option Text) :
    shownCredential credential = starsOrHyphen credential := by
  match credential with
  | none => rfl
  | some [] => rfl
  | some (c :: rest) => rfl

theorem rows_eq (s : Spec) : s.rows = s.documentedRows := by
  simp only [rows, documentedRows, shownField_eq, shownCredential_eq, shownType, nameOrHyphen,
    absent]

/-! ## 2. Specs that are shown as they stand -/

/-- Printable ASCII without spaces. -/
def IsPlain (t : Text) : Prop := ∀ c ∈ t, c.isPrintableAscii = true ∧ c ≠ CodePoint.ofChar ' '

/-- The texts of a spec that are shown. -/
def shownTexts (s : Spec) : List Text :=
  s.provider :: (s.endpoint.toList ++ s.apiVersion.toList ++ s.identity.toList)

/-- The types and builders of a spec. -/
def components (s : Spec) : List Component :=
  s.sync.toList ++ s.async.toList ++ s.propertiesBuilder.toList ++ s.contextBuilder.toList

/-- All that the spec shows is shown as it stands: its texts are printable ASCII without spaces and
do not read as markup, and its components are classes.  The classes of extensions have names that
can be shown; those of the bundled ones are known. -/
structure Presentable (s : Spec) : Prop where
  plain : ∀ t ∈ s.shownTexts, IsPlain t
  unmarked : ∀ t ∈ s.shownTexts, Markup.Unmarked t
  classes : ∀ c ∈ s.components, c.isClass = true
  names : ∀ e, Component.extension e ∈ s.components →
    Legible (Component.extension e).typeName ∧ Markup.Unmarked (Component.extension e).typeName

/-- A text that a cell shows as it stands. -/
def Verbatim (t : Text) : Prop := Legible t ∧ Markup.Unmarked t

theorem verbatim_of_plain {t : Text} (hplain : IsPlain t) (hunmarked : Markup.Unmarked t) :
    Verbatim t := by
  refine ⟨legible_of_printable (fun c hc => (hplain c hc).1) ?_, hunmarked⟩
  intro c hc
  obtain ⟨hprintable, hspace⟩ := hplain c (List.mem_of_mem_getLast? hc)
  simp only [CodePoint.isPrintableAscii, Bool.and_eq_true, decide_eq_true_eq] at hprintable
  have hval : c.val ≠ 0x20 := fun h => hspace (CodePoint.ext h)
  simp [CodePoint.isBlank]
  omega

/-- A text is printable ASCII without opening brackets and colons and does not end in a space. -/
def isSimple (t : Text) : Bool :=
  t.all (fun c => c.isPrintableAscii && c != CodePoint.ofChar '[' && c != CodePoint.ofChar ':') &&
    t.getLast?.all fun c => !c.isBlank

theorem verbatim_of_isSimple {t : Text} (h : isSimple t = true) : Verbatim t := by
  simp only [isSimple, Bool.and_eq_true, List.all_eq_true, bne_iff_ne, Option.all_eq_true,
    Bool.not_eq_true'] at h
  obtain ⟨hall, hfinal⟩ := h
  have hcolon : t.count (CodePoint.ofChar ':') = 0 :=
    List.count_eq_zero.mpr fun hmem => (hall _ hmem).2 rfl
  exact ⟨legible_of_printable (fun c hc => (hall c hc).1.1) hfinal,
    Markup.unmarked_of_count (fun hmem => (hall _ hmem).1.2 rfl) (by omega)⟩

theorem verbatim_hyphen : Verbatim "-" := verbatim_of_isSimple (by decide)

theorem verbatim_orHyphen {value : Option Text} (h : ∀ t ∈ value, Verbatim t) :
    Verbatim (orHyphen value) := by
  match value with
  | none => exact verbatim_hyphen
  | some [] => exact verbatim_hyphen
  | some (c :: rest) => exact h _ rfl

/-- The bundled classes have names that are shown as they stand. -/
theorem verbatim_typeName {c : Component} (hclass : c.isClass = true)
    (hname : ∀ e, c = .extension e → Verbatim c.typeName) : Verbatim c.typeName := by
  cases c with
  | bundled part flavour =>
    cases part <;> cases flavour <;> exact verbatim_of_isSimple (by decide +kernel)
  | extension e => exact hname e rfl
  | s3Client => exact verbatim_of_isSimple (by decide +kernel)
  | shareUrls => exact verbatim_of_isSimple (by decide +kernel)
  | object shown isTruthy => cases hclass

/-! ## 3. What is on the screen -/

/-- The texts in the second column, from the top. -/
def shownValues (s : Spec) : List Text := "Value" :: s.documentedRows.map Prod.snd

/-- The width of the widest text in the second column. -/
def valueRoom (s : Spec) : Nat := (s.shownValues.map Text.cells).foldl max 0

/-- A row: the field, filled up to the width of the longest one, and the value. -/
def rowText (room : Nat) (row : Text × Text) : Text :=
  Text.spaces 2 ++ row.1 ++ Text.spaces (18 - row.1.cells) ++ Text.spaces 3 ++ row.2 ++
    Text.spaces (room - row.2.cells) ++ Text.spaces 2

/-- What is on the screen: the title, the headings with a rule below them, the rows, and blank
lines between the title and the headings and at the end. -/
def screenLines (s : Spec) : List Text :=
  let room := s.valueRoom
  [s.sheet.titleLine, Text.spaces (room + 25), rowText room ("Field", "Value"),
      Sheet.rule (20, room + 2)] ++
    s.documentedRows.map (rowText room) ++ [Text.spaces (room + 25)]

/-- The texts in the first column are always the same. -/
theorem fields_sheet (s : Spec) : s.sheet.fields = (["Field", "provider", "endpoint", "api version",
    "identity", "credential", "sync type", "async type", "properties builder", "context builder"] :
      List Text) := rfl

theorem values_sheet (s : Spec) : s.sheet.values = s.shownValues := by
  rw [Sheet.values, sheet, rows_eq, shownValues]

theorem ownWidths_sheet (s : Spec) : s.sheet.ownWidths = (20, s.valueRoom + 2) := by
  have hfields : Sheet.ownWidth s.sheet.fields = 20 := by
    rw [fields_sheet]
    decide +kernel
  rw [Sheet.ownWidths, hfields, values_sheet, shownValues, Sheet.ownWidth_cons]
  rfl

theorem rowLine_eq {room : Nat} {row : Text × Text} (hfield : row.1.cells + 2 ≤ 20)
    (hvalue : row.2.cells + 2 ≤ room + 2) :
    Sheet.rowLine (20, room + 2) row = rowText room row := by
  have hleft : 20 - 1 - row.1.cells = 18 - row.1.cells + 1 := by omega
  have hright : room + 2 - 1 - row.2.cells = room - row.2.cells + 1 := by omega
  simp only [Sheet.rowLine, Sheet.line, Sheet.padded, hleft, hright, rowText, List.append_assoc,
    Text.spaces_append_spaces, Text.spaces_append_spaces_append, Nat.add_assoc, Nat.reduceAdd]

theorem page_sheet (s : Spec) : s.sheet.page = s.screenLines := by
  have hrow : ∀ row, row = s.sheet.headings ∨ row ∈ s.sheet.rows →
      Sheet.rowLine (20, s.valueRoom + 2) row = rowText s.valueRoom row := by
    intro row hrow
    have hwidths := s.ownWidths_sheet
    rw [Sheet.ownWidths, Prod.mk.injEq] at hwidths
    have hfield : row.1 ∈ s.sheet.fields := by
      rcases hrow with rfl | hrow
      · exact List.mem_cons_self
      · exact List.mem_cons_of_mem _ (List.mem_map_of_mem hrow)
    have hvalue : row.2 ∈ s.sheet.values := by
      rcases hrow with rfl | hrow
      · exact List.mem_cons_self
      · exact List.mem_cons_of_mem _ (List.mem_map_of_mem hrow)
    apply rowLine_eq
    · rw [← hwidths.1]
      exact Sheet.le_ownWidth hfield
    · rw [← hwidths.2]
      exact Sheet.le_ownWidth hvalue
  have hrows : s.sheet.rows.map (Sheet.rowLine (20, s.valueRoom + 2))
      = s.documentedRows.map (rowText s.valueRoom) := by
    rw [← rows_eq]
    exact List.map_congr_left fun row h => hrow row (Or.inr h)
  have hwidth : 20 + (s.valueRoom + 2) + Sheet.frame = s.valueRoom + 25 := by
    rw [Sheet.frame]
    omega
  rw [Sheet.page, Sheet.pageWidth, ownWidths_sheet, hrow _ (Or.inl rfl), hrows, screenLines, hwidth]
  rfl

/-! ## 4. Everything on the sheet is shown as it stands -/

theorem verbatim_fields (s : Spec) : ∀ t ∈ s.sheet.fields, Verbatim t := by
  have hall : (["Field", "provider", "endpoint", "api version", "identity", "credential",
      "sync type", "async type", "properties builder", "context builder"] : List Text).all
        isSimple = true := by decide +kernel
  rw [fields_sheet]
  exact fun t ht => verbatim_of_isSimple (List.all_eq_true.mp hall t ht)

theorem verbatim_starsOrHyphen (value : Option Text) : Verbatim (starsOrHyphen value) := by
  rw [starsOrHyphen]
  split
  · exact verbatim_hyphen
  · exact verbatim_of_isSimple (by decide +kernel)

namespace Presentable

variable {s : Spec}

theorem verbatim_of_mem (h : s.Presentable) {t : Text} (ht : t ∈ s.shownTexts) : Verbatim t :=
  verbatim_of_plain (h.plain t ht) (h.unmarked t ht)

theorem verbatim_nameOrHyphen (h : s.Presentable) {component : Option Component}
    (hmem : ∀ c ∈ component, c ∈ s.components) : Verbatim (nameOrHyphen component) := by
  cases component with
  | none => exact verbatim_hyphen
  | some c =>
    have hc := hmem c rfl
    exact verbatim_typeName (h.classes c hc) fun e he => he ▸ h.names e (he ▸ hc)

theorem verbatim_values (h : s.Presentable) : ∀ t ∈ s.sheet.values, Verbatim t := by
  rw [values_sheet]
  intro t ht
  simp only [shownValues, documentedRows, List.map_cons, List.map_nil, List.mem_cons,
    List.not_mem_nil, or_false] at ht
  rcases ht with rfl | rfl | rfl | rfl | rfl | rfl | rfl | rfl | rfl | rfl
  · exact verbatim_of_isSimple (by decide +kernel)
  · exact h.verbatim_of_mem List.mem_cons_self
  · exact verbatim_orHyphen fun t ht => h.verbatim_of_mem (by simp_all [shownTexts])
  · exact verbatim_orHyphen fun t ht => h.verbatim_of_mem (by simp_all [shownTexts])
  · exact verbatim_orHyphen fun t ht => h.verbatim_of_mem (by simp_all [shownTexts])
  · exact verbatim_starsOrHyphen _
  · exact h.verbatim_nameOrHyphen fun c hc => by simp_all [components]
  · exact h.verbatim_nameOrHyphen fun c hc => by simp_all [components]
  · exact h.verbatim_nameOrHyphen fun c hc => by simp_all [components]
  · exact h.verbatim_nameOrHyphen fun c hc => by simp_all [components]

/-- The title is as legible as the provider's name: its colon stands before a space. -/
theorem verbatim_title (h : s.Presentable) : Verbatim s.sheet.title := by
  obtain ⟨hlegible, hunmarked⟩ := h.verbatim_of_mem (t := s.provider) List.mem_cons_self
  constructor
  · exact Legible.append (s := "Context spec: ") (by decide) hlegible s.provider_ne
  · have hspace := Markup.Unmarked.append (s := " ") (by decide) hunmarked
    exact Markup.Unmarked.append (s := "Context spec") (by decide)
      (Markup.Unmarked.colon (by decide) hspace)

theorem isLegible_sheet (h : s.Presentable) : s.sheet.IsLegible where
  fields t ht := (s.verbatim_fields t ht).1
  values t ht := (h.verbatim_values t ht).1
  headings := show 0 < Text.cells "Field" ∧ 0 < Text.cells "Value" by decide
  title := h.verbatim_title.1
  titleFits := by
    have hprovider := (h.verbatim_of_mem (t := s.provider) List.mem_cons_self).1.loose
    have hvalue : s.provider ∈ s.sheet.values := by
      rw [values_sheet]
      exact List.mem_cons_of_mem _ List.mem_cons_self
    have hroom := Sheet.le_ownWidth hvalue
    have htitle : s.sheet.title.cells = Text.cells "Context spec: " + s.provider.cells :=
      Text.cells_append (by decide) hprovider
    have hprefix : Text.cells "Context spec: " = 14 := by decide
    have hfields : s.sheet.ownWidths.1 = 20 := by rw [ownWidths_sheet]
    rw [htitle, hprefix, Sheet.pageWidth, hfields, Sheet.frame]
    rw [Sheet.padding] at hroom
    dsimp only [Sheet.ownWidths]
    omega

theorem shows_sheet (h : s.Presentable) (judge : Markup.Judge) :
    Sheet.Shows judge s.sheet s.sheet :=
  Sheet.shows_self (h.verbatim_title.1.shown h.verbatim_title.2 judge)
    (fun t ht => (s.verbatim_fields t ht).1.shown (s.verbatim_fields t ht).2 judge)
    (fun t ht => (h.verbatim_values t ht).1.shown (h.verbatim_values t ht).2 judge)

end Presentable

/-! ## 5. The whole screen -/

/-- **A spec is shown as it is**: where its texts do not read as markup and the screen is wide
enough that no cell is broken, showing it succeeds, and there is one line for each of the nine
fields with its value as it stands. -/
theorem render_verbatim (s : Spec) (h : s.Presentable) (width : Nat)
    (hwide : ∀ t ∈ s.shownValues, 25 + t.cells ≤ width) (judge : Markup.Judge) :
    s.render width judge = .ok (s.screenLines.flatMap fun l => l ++ [.ofNat 0x0A]) := by
  have hwidth : s.sheet.pageWidth ≤ width := by
    rw [Sheet.pageWidth, ownWidths_sheet, valueRoom, Sheet.frame]
    have hroom : (s.shownValues.map Text.cells).foldl max 0 ≤ width - 25 := by
      rw [Sheet.foldl_max_le_iff]
      refine ⟨Nat.zero_le _, fun n hn => ?_⟩
      obtain ⟨t, ht, rfl⟩ := List.mem_map.mp hn
      have := hwide t ht
      omega
    have hheading := hwide "Value" List.mem_cons_self
    dsimp only
    omega
  rw [render, Sheet.render_of_shows h.isLegible_sheet (h.shows_sheet judge) hwidth, page_sheet]
  rfl

/-- A spec with some fields and without others. -/
def recorded : Spec where
  provider := "s3"
  provider_ne := by decide
  endpoint := some "https://s3.example.com"
  apiVersion := some []
  credential := some "wJalr"
  sync := some .s3Client
  propertiesBuilder := some (.bundled .properties .s3)
  contextBuilder := some (.extension { name := "Recorder" })

theorem render_verbatim_recorded :
    recorded.Presentable ∧ (∀ t ∈ recorded.shownValues, 25 + t.cells ≤ 80) ∧
      recorded.render 80 = .ok (recorded.screenLines.flatMap fun l => l ++ [.ofNat 0x0A]) ∧
      recorded.documentedRows = ([("provider", "s3"), ("endpoint", "https://s3.example.com"),
        ("api version", "-"), ("identity", "-"), ("credential", "***"),
        ("sync type", "botocore.client.BaseClient"), ("async type", "-"),
        ("properties builder", "cloudcontext.providers.s3.S3PropertiesBuilder"),
        ("context builder", "custom.Recorder")] : List (Text × Text)) := by
  have hpresentable : recorded.Presentable := {
    plain := by unfold IsPlain; decide
    unmarked := fun t ht => by
      have hall : ∀ t ∈ recorded.shownTexts, CodePoint.ofChar '[' ∉ t ∧
        t.count (CodePoint.ofChar ':') ≤ 1 := by decide
      exact Markup.unmarked_of_count (hall t ht).1 (hall t ht).2
    classes := by decide
    names := fun e he => by
      have hname : Component.extension e = .extension { name := "Recorder" } := by
        simpa [recorded, components] using he
      rw [hname]
      exact verbatim_of_isSimple (by decide +kernel) }
  have hwide : ∀ t ∈ recorded.shownValues, 25 + t.cells ≤ 80 := by decide
  exact ⟨hpresentable, hwide, render_verbatim recorded hpresentable 80 hwide Markup.lenient,
    by decide +kernel⟩

/-! ## 6. A value that reads as markup -/

/-- A description that can be read has a normal form. -/
theorem normalForm_eq_ok {description : Text}
    {style? : Option Style} (h : Style.ofWords {} (Text.words description) = .ok style?) :
    ∃ normal, Style.normalForm description = .ok normal := by
  rw [Style.normalForm, h]
  split
  · exact ⟨_, rfl⟩
  · cases style? with
    | none => exact ⟨_, rfl⟩
    | some style => exact ⟨_, rfl⟩

/-- An address in brackets that begins with a letter reads as the name of a style, whether or not
there is a style of that name. -/
theorem ofBody_address : ∃ opened, Markup.Tag.ofBody "fe80::1" = .ok (.opening opened) := by
  have hlower : Text.lower "fe80::1" = "fe80::1" := by decide +kernel
  have hattribute : attribute? "fe80::1" = none := by decide +kernel
  have hcolour : ∃ known, Colour.isColour "fe80::1" = .ok known := by
    rw [Colour.isColour]
    split
    · exact ⟨true, rfl⟩
    · exact ⟨false, by decide +kernel⟩
  obtain ⟨known, hknown⟩ := hcolour
  have hstyle : ∃ style?, Style.ofWords {} [("fe80::1" : Text)] = .ok style? := by
    unfold Style.ofWords
    simp only [hlower, if_neg (show ¬ ("fe80::1" : Text) = "on" by decide),
      if_neg (show ¬ ("fe80::1" : Text) = "not" by decide),
      if_neg (show ¬ ("fe80::1" : Text) = "link" by decide), hattribute, hknown]
    cases known with
    | false => exact ⟨_, rfl⟩
    | true => exact ⟨_, rfl⟩
  obtain ⟨style?, hstyle?⟩ := hstyle
  have hwords : Text.words "fe80::1" = [("fe80::1" : Text)] := by decide +kernel
  obtain ⟨style, hnormal⟩ := normalForm_eq_ok (hwords ▸ hstyle?)
  have hcut : Text.cut? '=' "fe80::1" = none := by decide
  have hcons : ("fe80::1" : Text) = CodePoint.ofChar 'f' :: "e80::1" := by decide
  refine ⟨⟨style, []⟩, ?_⟩
  rw [Markup.Tag.ofBody, hcut, Option.getD_none, hcons]
  dsimp only
  rw [if_neg (by decide), ← hcons, hnormal]
  rfl

/-- A spec whose endpoint has an address in brackets that begins with a letter. -/
def bracketed : Spec where
  provider := "s3"
  provider_ne := by decide
  endpoint := some "https://[fe80::1]:9000"

/-- What that spec shows. -/
def bracketedShown : Spec := { bracketed with endpoint := some "https://:9000" }

theorem shown_bracketed (judge : Markup.Judge) :
    Markup.shown judge "https://[fe80::1]:9000" = .ok ("https://:9000" : Text) := by
  obtain ⟨opened, hopened⟩ := ofBody_address
  have hpieces : Markup.pieces "https://[fe80::1]:9000"
      = [.plain "https://", .tag "fe80::1" 8, .plain ":9000"] := by decide +kernel
  have hshown : Markup.shownPlain "https://" ++ Markup.shownPlain ":9000"
      = ("https://:9000" : Text) := by decide +kernel
  rw [Markup.shown_of_opening hpieces hopened, hshown]

theorem shows_bracketed :
    Sheet.Shows Markup.lenient bracketed.sheet bracketedShown.sheet where
  title := by decide +kernel
  fields := by
    rw [fields_sheet, fields_sheet, ← fields_sheet bracketed]
    exact List.forall₂_same.mpr fun t ht =>
      (bracketed.verbatim_fields t ht).1.shown (bracketed.verbatim_fields t ht).2 _
  values := by
    have hrest : ∀ t ∈ (["Value", "s3", "-"] : List Text),
        Markup.shown Markup.lenient t = .ok t := by
      decide +kernel
    simp only [List.mem_cons, List.not_mem_nil, or_false, forall_eq_or_imp, forall_eq] at hrest
    obtain ⟨hheading, hprovider, hhyphen⟩ := hrest
    have hvalues : bracketed.sheet.values = (["Value", "s3", "https://[fe80::1]:9000", "-", "-",
      "-", "-", "-", "-", "-"] : List Text) := by decide
    have hshown : bracketedShown.sheet.values = (["Value", "s3", "https://:9000", "-", "-", "-",
      "-", "-", "-", "-"] : List Text) := by decide
    rw [hvalues, hshown]
    exact .cons hheading (.cons hprovider (.cons (shown_bracketed _) (.cons hhyphen (.cons hhyphen
      (.cons hhyphen (.cons hhyphen (.cons hhyphen (.cons hhyphen (.cons hhyphen .nil)))))))))

/-- **An address in brackets is lost.**  The endpoint is printable ASCII without spaces and there
is room for it, but its brackets are read as a tag and it is not on the screen. -/
theorem render_bracketed :
    (∀ t ∈ bracketed.shownTexts, IsPlain t) ∧ (∀ t ∈ bracketed.shownValues, 25 + t.cells ≤ 80) ∧
      ∃ screen, bracketed.render 80 = .ok screen ∧
        ¬ ("https://[fe80::1]:9000" : Text) <:+: screen := by
  have hlegible : bracketedShown.sheet.IsLegible := {
    fields := fun t ht => (bracketedShown.verbatim_fields t ht).1
    values := fun t ht => by
      have hall : ∀ t ∈ bracketedShown.sheet.values, (∀ c ∈ t, c.isPrintableAscii = true) ∧
        ∀ c ∈ t.getLast?, c.isBlank = false := by decide +kernel
      exact legible_of_printable (hall t ht).1 (hall t ht).2
    headings := by decide
    title := legible_of_printable (by decide) (by decide)
    titleFits := by decide +kernel }
  refine ⟨by unfold IsPlain; decide, by decide,
    bracketedShown.sheet.page.flatMap fun l => l ++ [.ofNat 0x0A], ?_, ?_⟩
  · rw [render, Sheet.render_of_shows hlegible shows_bracketed (by decide +kernel)]
    rfl
  · intro hinfix
    have hbracket : CodePoint.ofChar '[' ∈
        bracketedShown.sheet.page.flatMap fun l => l ++ [.ofNat 0x0A] :=
      hinfix.subset (by decide)
    revert hbracket
    decide +kernel

end CloudAccess.Spec
