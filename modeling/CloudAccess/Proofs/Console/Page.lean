/-
# Sheets with room for all that they show

A sheet is given as marked-up texts, and `Shows` relates it to the sheet of what they show.  A text
is legible when a cell has it on one line as it stands: nothing in it is dropped, ends a line or
changes the room of what stands beside it, and it does not end in a blank.

Where all that is shown is legible and the screen has room for the widest text of both columns, no
cell gives way and no text is broken.  What is then on the screen is the page of the sheet (`page`):
the title in the middle, and each row on one line with its texts at the left of their columns
(`render_of_shows`).
-/
import Mathlib.Data.List.Forall2
import CloudAccess.Console.Sheet
import CloudAccess.Proofs.Console.Line
import CloudAccess.Proofs.Console.Markup

namespace CloudAccess.Console

/-! ## 1. Legible texts -/

/-- `c` is not dropped, does not end a line, is no tab, and takes the same room wherever it
stands. -/
def isSteady (c : CodePoint) : Bool :=
  !Markup.isDropped c && !Sheet.endsLine c && c != .ofNat 0x09 && !c.isJoiner && !c.isEmojiSelector

/-- A cell with room for the text has it on one line as it stands. -/
structure Legible (t : Text) : Prop where
  steady : ∀ c ∈ t, isSteady c = true
  final : ∀ c ∈ t.getLast?, c.isBlank = false

theorem isSteady_iff {c : CodePoint} : isSteady c = true ↔
    Markup.isDropped c = false ∧ Sheet.endsLine c = false ∧ c ≠ .ofNat 0x09 ∧
      c.isJoiner = false ∧ c.isEmojiSelector = false := by
  simp [isSteady, and_assoc]

theorem isSteady_of_printable {c : CodePoint} (h : c.isPrintableAscii = true) :
    isSteady c = true := by
  simp only [CodePoint.isPrintableAscii, Bool.and_eq_true, decide_eq_true_eq] at h
  have htab : c ≠ .ofNat 0x09 := by
    rintro rfl
    exact absurd h.1 (by decide)
  rw [isSteady_iff]
  refine ⟨?_, ?_, htab, ?_, ?_⟩
  · simp [Markup.isDropped]; omega
  · simp [Sheet.endsLine]; omega
  · simp [CodePoint.isJoiner]; omega
  · simp [CodePoint.isEmojiSelector]; omega

/-- Printable ASCII that does not end in a space is legible. -/
theorem legible_of_printable {t : Text} (hprintable : ∀ c ∈ t, c.isPrintableAscii = true)
    (hfinal : ∀ c ∈ t.getLast?, c.isBlank = false) : Legible t where
  steady c hc := isSteady_of_printable (hprintable c hc)
  final := hfinal

namespace Legible

variable {t : Text}

/-- The end of a legible text makes all of it legible that has only steady characters before. -/
theorem append {s : Text} (hs : ∀ c ∈ s, isSteady c = true) (h : Legible t) (hne : t ≠ []) :
    Legible (s ++ t) where
  steady c hc := (List.mem_append.mp hc).elim (hs c) (h.steady c)
  final c hc := h.final c (by rwa [List.getLast?_append_of_ne_nil _ hne] at hc)

theorem shown (h : Legible t) (hunmarked : Markup.Unmarked t) (judge : Markup.Judge) :
    Markup.shown judge t = .ok t :=
  Markup.shown_of_unmarked hunmarked (fun c hc => (isSteady_iff.mp (h.steady c hc)).1) judge

theorem loose (h : Legible t) : t.Loose := fun c hc => (isSteady_iff.mp (h.steady c hc)).2.2.2

theorem isLine (h : Legible t) : Wrap.IsLine t where
  loose := h.loose
  lineFeed hmem := absurd (isSteady_iff.mp (h.steady _ hmem)).2.1 (by decide)
  tab hmem := (isSteady_iff.mp (h.steady _ hmem)).2.2.1 rfl
  final := h.final

/-- The width of a legible text is its own: it is all on one line. -/
theorem naturalWidth (h : Legible t) : Sheet.naturalWidth t = t.cells := by
  have hone : Text.splitWhere Sheet.endsLine t = [t] := by
    have hends : ∀ c ∈ t, Sheet.endsLine c = false := fun c hc =>
      (isSteady_iff.mp (h.steady c hc)).2.1
    clear h
    induction t with
    | nil => rfl
    | cons c rest ih =>
      have hrest := ih fun d hd => hends d (List.mem_cons_of_mem _ hd)
      rw [Text.splitWhere] at hrest ⊢
      rw [List.foldr_cons, hrest, hends c List.mem_cons_self]
      rfl
  rw [Sheet.naturalWidth, hone]
  exact Nat.zero_max _

end Legible

namespace Sheet

/-! ## 2. Cells and rows with room -/

/-- A text at the left of a column of the given width. -/
def padded (width : Nat) (t : Text) : Text :=
  Text.spaces 1 ++ t ++ Text.spaces (width - 1 - t.cells)

theorem cellLines_of_legible {width : Nat} {t : Text} (h : Legible t) (hwidth : padding < width)
    (hfits : t.cells + padding ≤ width) : cellLines width t = [padded width t] := by
  have hinner : t.cells ≤ width - padding := by omega
  have hroom : width - 1 - t.cells = width - padding - t.cells + 1 := by
    rw [padding] at hwidth hfits ⊢
    omega
  rw [cellLines, if_neg (by omega)]
  dsimp only
  rw [Wrap.lines_of_fits h.isLine hinner, List.map_singleton,
    Wrap.leftAligned_of_fits h.loose hinner, padded, hroom]
  simp only [List.append_assoc, Text.spaces_append_spaces]

/-- A row on one line. -/
def rowLine (widths : Nat × Nat) (row : Text × Text) : Text :=
  line (padded widths.1 row.1) (padded widths.2 row.2)

/-- A text has the room it needs in a column of the given width. -/
structure Fits (width : Nat) (t : Text) : Prop where
  legible : Legible t
  positive : padding < width
  room : t.cells + padding ≤ width

theorem cellLines_of_fits {width : Nat} {t : Text} (h : Fits width t) :
    cellLines width t = [padded width t] :=
  cellLines_of_legible h.legible h.positive h.room

theorem rowLines_of_fits {widths : Nat × Nat} {row : Text × Text} (hleft : Fits widths.1 row.1)
    (hright : Fits widths.2 row.2) : rowLines widths row = [rowLine widths row] := by
  rw [rowLines, cellLines_of_fits hleft, cellLines_of_fits hright]
  rfl

/-! ## 3. Columns with room -/

theorem foldl_max_le_iff {l : List Nat} {a n : Nat} :
    l.foldl max a ≤ n ↔ a ≤ n ∧ ∀ x ∈ l, x ≤ n := by
  induction l generalizing a with
  | nil => simp
  | cons x rest ih =>
    rw [List.foldl_cons, ih, Nat.max_le, List.forall_mem_cons, and_assoc]

/-- The width of a column in which all texts have the room they need. -/
def ownWidth (texts : List Text) : Nat :=
  (texts.map fun t => t.cells + padding).foldl max 0

theorem ownWidth_le_iff {texts : List Text} {n : Nat} :
    ownWidth texts ≤ n ↔ ∀ t ∈ texts, t.cells + padding ≤ n := by
  rw [ownWidth, foldl_max_le_iff]
  simp

theorem le_ownWidth {texts : List Text} {t : Text} (h : t ∈ texts) :
    t.cells + padding ≤ ownWidth texts := ownWidth_le_iff.mp (Nat.le_refl _) t h

/-- The width of a column is that of its widest text, with the blanks beside it. -/
theorem ownWidth_cons (t : Text) (texts : List Text) :
    ownWidth (t :: texts) = ((t :: texts).map Text.cells).foldl max 0 + padding := by
  have hadd (l : List Text) (a : Nat) : (l.map fun t => t.cells + padding).foldl max (a + padding)
      = (l.map Text.cells).foldl max a + padding := by
    induction l generalizing a with
    | nil => rfl
    | cons u rest ih =>
      rw [List.map_cons, List.foldl_cons, List.map_cons, List.foldl_cons, Nat.add_max_add_right, ih]
  rw [ownWidth, List.map_cons, List.foldl_cons, List.map_cons, List.foldl_cons, Nat.zero_max,
    Nat.zero_max, hadd]

/-- Where there is room for it, a column of legible texts has its own width. -/
theorem columnWidth_of_legible {texts : List Text} {room : Nat} (hlegible : ∀ t ∈ texts, Legible t)
    (hpadding : padding < room) (hroom : ownWidth texts ≤ room) :
    columnWidth room texts = ownWidth texts := by
  have hwidths : (texts.map fun t => naturalWidth t + padding)
      = texts.map fun t => t.cells + padding :=
    List.map_congr_left fun t ht => by rw [(hlegible t ht).naturalWidth]
  rw [columnWidth, if_neg (by omega), if_neg (by omega), hwidths]
  exact Nat.min_eq_right hroom

/-- Columns that fit side by side keep their widths. -/
theorem share_of_le {room a b : Nat} (h : a + b ≤ room) : share room (a, b) = (a, b) := by
  have hexcess : a + b - room = 0 := by omega
  simp [share, hexcess, evenHalf]

/-! ## 4. The page -/

/-- The texts of the first column, from the top. -/
def fields (s : Sheet) : List Text := s.headings.1 :: s.rows.map Prod.fst

/-- The texts of the second column, from the top. -/
def values (s : Sheet) : List Text := s.headings.2 :: s.rows.map Prod.snd

/-- The widths of both columns where nothing gives way. -/
def ownWidths (s : Sheet) : Nat × Nat := (ownWidth s.fields, ownWidth s.values)

/-- The width of the sheet where nothing gives way. -/
def pageWidth (s : Sheet) : Nat := s.ownWidths.1 + s.ownWidths.2 + frame

/-- The title in the middle of the sheet. -/
def titleLine (s : Sheet) : Text :=
  let left := (s.pageWidth - s.title.cells) / 2
  Text.spaces left ++ s.title ++ Text.spaces (s.pageWidth - s.title.cells - left)

/-- The lines of the sheet where nothing gives way. -/
def page (s : Sheet) : List Text :=
  [s.titleLine, Text.spaces s.pageWidth, rowLine s.ownWidths s.headings, rule s.ownWidths] ++
    s.rows.map (rowLine s.ownWidths) ++ [Text.spaces s.pageWidth]

/-- All that a sheet shows is legible, both headings take room, and the title is not wider than the
columns. -/
structure IsLegible (s : Sheet) : Prop where
  fields : ∀ t ∈ s.fields, Legible t
  values : ∀ t ∈ s.values, Legible t
  headings : 0 < s.headings.1.cells ∧ 0 < s.headings.2.cells
  title : Legible s.title
  titleFits : s.title.cells ≤ s.pageWidth

/-! ## 5. Lines of the page fill it -/

theorem loose_padded {t : Text} (h : t.Loose) (width : Nat) : (padded width t).Loose :=
  ((Text.loose_spaces 1).append h).append (Text.loose_spaces _)

theorem cells_padded {width : Nat} {t : Text} (h : Fits width t) :
    (padded width t).cells = width := by
  have hroom := h.room
  have hloose := h.legible.loose
  rw [padded, Text.cells_append ((Text.loose_spaces 1).append hloose) (Text.loose_spaces _),
    Text.cells_append (Text.loose_spaces 1) hloose, Text.cells_spaces, Text.cells_spaces]
  rw [padding] at hroom
  omega

theorem cells_line {left right : Text} (hl : left.Loose) (hr : right.Loose) :
    (line left right).cells = left.cells + right.cells + frame := by
  have hs := Text.loose_spaces 1
  rw [line, Text.cells_append (((hs.append hl).append hs).append hr) hs,
    Text.cells_append ((hs.append hl).append hs) hr, Text.cells_append (hs.append hl) hs,
    Text.cells_append hs hl, Text.cells_spaces, frame]
  omega

theorem cells_rowLine {widths : Nat × Nat} {row : Text × Text} (hleft : Fits widths.1 row.1)
    (hright : Fits widths.2 row.2) :
    (rowLine widths row).cells = widths.1 + widths.2 + frame := by
  rw [rowLine, cells_line (loose_padded hleft.legible.loose _)
    (loose_padded hright.legible.loose _), cells_padded hleft, cells_padded hright]

/-- The line that a rule is drawn with takes one cell: it stands in neither of the tables, which are
read here as lists of characters. -/
theorem cells_dash : (CodePoint.ofNat 0x2500).cells = 1 := by
  have hzero : zeroRanges.contains 0x2500 = false := by
    simp only [zeroRanges, Ranges.ofHex, String.foldl_eq_foldl_toList, List.foldl_cons,
      List.foldl_nil]
    repeat rw [String.toList_ofList]
    decide +kernel
  have hwide : wideRanges.contains 0x2500 = false := by
    simp only [wideRanges, Ranges.ofHex, String.foldl_eq_foldl_toList, List.foldl_cons,
      List.foldl_nil]
    repeat rw [String.toList_ofList]
    decide +kernel
  have hval : (CodePoint.ofNat 0x2500).val = 0x2500 := by decide
  rw [CodePoint.cells, hval, hzero, hwide]
  decide

theorem cells_rule (widths : Nat × Nat) : (rule widths).cells = widths.1 + widths.2 + frame := by
  have hs := Text.loose_spaces 1
  have hdash : (CodePoint.ofNat 0x2500).isJoiner = false ∧
      (CodePoint.ofNat 0x2500).isEmojiSelector = false := by decide
  have hl := Text.loose_replicate (widths.1 + 1 + widths.2) hdash.1 hdash.2
  rw [rule, Text.cells_append (hs.append hl) hs, Text.cells_append hs hl, Text.cells_spaces,
    Text.cells_replicate _ hdash.1 hdash.2, cells_dash, frame]
  omega

theorem line_spaces (widths : Nat × Nat) :
    line (Text.spaces widths.1) (Text.spaces widths.2)
      = Text.spaces (widths.1 + widths.2 + frame) := by
  simp only [line, Text.spaces_append_spaces, frame]
  congr 1
  omega

/-! ## 6. What is on the screen -/

variable {judge : Markup.Judge}

/-- The second sheet is what the marked-up texts of the first one show. -/
structure Shows (judge : Markup.Judge) (s shown : Sheet) : Prop where
  title : Markup.shown judge s.title = .ok shown.title
  fields : List.Forall₂ (fun t u => Markup.shown judge t = .ok u) s.fields shown.fields
  values : List.Forall₂ (fun t u => Markup.shown judge t = .ok u) s.values shown.values

theorem shownCells_of_forall₂ {texts shown : List Text}
    (h : List.Forall₂ (fun t u => Markup.shown judge t = .ok u) texts shown) :
    shownCells judge texts = .ok shown := by
  induction h with
  | nil => rfl
  | cons hfirst _ ih =>
    rw [shownCells, hfirst, ih]
    rfl

/-- A sheet of which every text is shown as it stands. -/
theorem shows_self {s : Sheet} (htitle : Markup.shown judge s.title = .ok s.title)
    (hfields : ∀ t ∈ s.fields, Markup.shown judge t = .ok t)
    (hvalues : ∀ t ∈ s.values, Markup.shown judge t = .ok t) : Shows judge s s where
  title := htitle
  fields := List.forall₂_same.mpr hfields
  values := List.forall₂_same.mpr hvalues

namespace IsLegible

variable {s : Sheet}

theorem fitsField (h : s.IsLegible) {t : Text} (ht : t ∈ s.fields) : Fits s.ownWidths.1 t where
  legible := h.fields t ht
  positive := by
    have := le_ownWidth (show s.headings.1 ∈ s.fields from List.mem_cons_self)
    have := h.headings.1
    rw [ownWidths]
    omega
  room := le_ownWidth ht

theorem fitsValue (h : s.IsLegible) {t : Text} (ht : t ∈ s.values) : Fits s.ownWidths.2 t where
  legible := h.values t ht
  positive := by
    have := le_ownWidth (show s.headings.2 ∈ s.values from List.mem_cons_self)
    have := h.headings.2
    rw [ownWidths]
    omega
  room := le_ownWidth ht

theorem fitsRow (h : s.IsLegible) {row : Text × Text} (hrow : row = s.headings ∨ row ∈ s.rows) :
    Fits s.ownWidths.1 row.1 ∧ Fits s.ownWidths.2 row.2 := by
  rcases hrow with rfl | hrow
  · exact ⟨h.fitsField List.mem_cons_self, h.fitsValue List.mem_cons_self⟩
  · exact ⟨h.fitsField (List.mem_cons_of_mem _ (List.mem_map_of_mem hrow)),
      h.fitsValue (List.mem_cons_of_mem _ (List.mem_map_of_mem hrow))⟩

theorem titleLines_eq (h : s.IsLegible) : titleLines s.pageWidth s.title = [s.titleLine] := by
  rw [titleLines, Wrap.lines_of_fits h.title.isLine h.titleFits, List.map_singleton,
    Wrap.centred_of_fits h.title.isLine h.titleFits, titleLine]

theorem bodyLines_eq (h : s.IsLegible) :
    s.titleLine :: bodyLines s.ownWidths s.headings s.rows = s.page := by
  have hrows : s.rows.flatMap (rowLines s.ownWidths) = s.rows.map (rowLine s.ownWidths) := by
    rw [← List.flatMap_singleton' (s.rows.map _), List.flatMap_map]
    exact List.flatMap_congr fun row hrow =>
      rowLines_of_fits (h.fitsRow (Or.inr hrow)).1 (h.fitsRow (Or.inr hrow)).2
  rw [bodyLines, rowLines_of_fits (h.fitsRow (Or.inl rfl)).1 (h.fitsRow (Or.inl rfl)).2, hrows,
    line_spaces, page, pageWidth]
  rfl

/-- Every line of the page is as wide as the page. -/
theorem cells_of_mem_page (h : s.IsLegible) {l : Text} (hl : l ∈ s.page) :
    l.cells = s.pageWidth := by
  simp only [page, List.mem_append, List.mem_cons, List.mem_map, List.not_mem_nil, or_false] at hl
  rcases hl with ((rfl | rfl | rfl | rfl) | ⟨row, hrow, rfl⟩) | rfl
  · have hfits := h.titleFits
    have hs (n : Nat) := Text.loose_spaces n
    dsimp only [titleLine]
    rw [Text.cells_append ((hs _).append h.title.loose) (hs _),
      Text.cells_append (hs _) h.title.loose, Text.cells_spaces, Text.cells_spaces]
    omega
  · exact Text.cells_spaces _
  · exact cells_rowLine (h.fitsRow (Or.inl rfl)).1 (h.fitsRow (Or.inl rfl)).2
  · exact cells_rule _
  · exact cells_rowLine (h.fitsRow (Or.inr hrow)).1 (h.fitsRow (Or.inr hrow)).2
  · exact Text.cells_spaces _

/-- **What a sheet shows is on the screen as a page**, where it is legible and the screen is wide
enough for it. -/
theorem lines_of_shows {marked : Sheet} (h : s.IsLegible) (hshows : Shows judge marked s)
    {width : Nat} (hwidth : s.pageWidth ≤ width) : marked.lines width judge = .ok s.page := by
  have hpositive := (h.fitsField List.mem_cons_self).positive
  have hroom : s.ownWidths.1 + s.ownWidths.2 ≤ width - frame := by
    rw [pageWidth] at hwidth
    omega
  have hwidths : share (width - frame) (columnWidth (width - frame) s.fields,
      columnWidth (width - frame) s.values) = s.ownWidths := by
    rw [columnWidth_of_legible h.fields (by omega) (by rw [ownWidths] at hroom; omega),
      columnWidth_of_legible h.values (by omega) (by rw [ownWidths] at hroom; omega)]
    exact share_of_le hroom
  have hzip : s.fields.tail.zip s.values.tail = s.rows := by
    rw [Sheet.fields, Sheet.values, List.tail_cons, List.tail_cons, List.zip_map']
    exact List.map_id s.rows
  have hall : titleLines (s.ownWidths.1 + s.ownWidths.2 + frame) s.title ++
      bodyLines s.ownWidths (s.fields.headD [], s.values.headD []) s.rows = s.page := by
    rw [← pageWidth, h.titleLines_eq, List.singleton_append]
    exact h.bodyLines_eq
  have hkept : s.page.map (fun l => if l.cells ≤ width then l else l.fit width) = s.page :=
    (List.map_congr_left fun l hl => if_pos (by rw [h.cells_of_mem_page hl]; exact hwidth)).trans
      (List.map_id s.page)
  have hfields := shownCells_of_forall₂ hshows.fields
  have hvalues := shownCells_of_forall₂ hshows.values
  rw [Sheet.fields.eq_def marked] at hfields
  rw [Sheet.values.eq_def marked] at hvalues
  simp only [lines, if_neg (show ¬ width = 0 by omega),
    if_neg (show ¬ width - frame ≤ padding by omega), hfields, hvalues, hshows.title, hwidths,
    bind, Except.bind, pure, Except.pure, hzip, hall, hkept]

end IsLegible

/-- A page as text. -/
theorem render_of_shows {marked s : Sheet} (h : s.IsLegible) (hshows : Shows judge marked s)
    {width : Nat} (hwidth : s.pageWidth ≤ width) :
    marked.render width judge = .ok (s.page.flatMap fun l => l ++ [.ofNat 0x0A]) := by
  rw [render, h.lines_of_shows hshows hwidth]
  rfl

end Sheet

end CloudAccess.Console
