import CommitStore.Report.Basic
set_option autoImplicit false

/-!
# Reports without faults

A report is a fault instead of a text when its markup closes what is not open, or names a style that
cannot be put out. The reports on commands that write are made of stretches: plain texts, and texts
between the tags of one style. The pieces of such a report are the characters of its texts and the
tags around them, each opening tag is closed by the next one, and so rendering goes through.

Laying a text out cuts, joins and fills it, but puts no style on a part of it that was not on the
text before (`Styled.Wears`). So what was rendered can be put out on every line.
-/

namespace CommitStore

/-! ## 1. Styles through the layout -/

namespace Styled

variable {shows : List Char → Prop} {t u : Styled}

/-- Every style on a text has a property. -/
def Wears (shows : List Char → Prop) (t : Styled) : Prop := ∀ s ∈ t.spans, shows s.style

theorem wears_plain (cs : List Char) : (plain cs).Wears shows := fun _ hs => nomatch hs

/-- It is enough that each span comes from one with the same style. -/
theorem Wears.of_spans (h : t.Wears shows)
    (hspans : ∀ s ∈ u.spans, ∃ s' ∈ t.spans, s.style = s'.style) : u.Wears shows := by
  intro s hs
  obtain ⟨s', hs', hstyle⟩ := hspans s hs
  rw [hstyle]
  exact h s' hs'

theorem Wears.append (ht : t.Wears shows) (hu : u.Wears shows) : (t.append u).Wears shows := by
  intro s hs
  rcases List.mem_append.mp hs with hs | hs
  · exact ht s hs
  · obtain ⟨s', hs', rfl⟩ := List.mem_map.mp hs
    exact hu s' hs'

theorem Wears.withChars (h : t.Wears shows) (cs : List Char) : (t.withChars cs).Wears shows := by
  refine h.of_spans fun s hs => ?_
  unfold Styled.withChars at hs
  dsimp only at hs
  split at hs
  · obtain ⟨s', hs', hcut⟩ := List.mem_filterMap.mp hs
    unfold Span.cut? at hcut
    split at hcut
    · cases hcut
      exact ⟨s', hs', rfl⟩
    · cases hcut
  · exact ⟨s, hs, rfl⟩

theorem Wears.part (h : t.Wears shows) (position size : Nat) :
    (t.part position size).Wears shows := by
  refine h.of_spans fun s hs => ?_
  obtain ⟨s', hs', hshare⟩ := List.mem_filterMap.mp hs
  unfold Span.share? at hshare
  dsimp only at hshare
  split at hshare
  · cases hshare
    exact ⟨s', hs', rfl⟩
  · cases hshare

theorem Wears.partsFrom (h : t.Wears shows) (position : Nat) (sizes : List Nat) :
    ∀ part ∈ t.partsFrom position sizes, part.Wears shows := by
  induction sizes generalizing position with
  | nil => exact fun _ hpart => nomatch hpart
  | cons size rest ih =>
    intro part hpart
    rcases List.mem_cons.mp hpart with rfl | hrest
    · exact h.part position size
    · exact ih _ part hrest

theorem Wears.divide (h : t.Wears shows) (sizes : List Nat) :
    ∀ part ∈ t.divide sizes, part.Wears shows := by
  intro part hpart
  unfold Styled.divide at hpart
  split at hpart
  · rw [List.mem_singleton.mp hpart]
    exact h
  · exact h.partsFrom 0 sizes part hpart

theorem Wears.lines (h : t.Wears shows) : ∀ line ∈ t.lines, line.Wears shows := fun line hline =>
  h.divide _ line (List.mem_filter.mp hline).1

theorem Wears.fillTab (h : t.Wears shows) (offset : Nat) :
    (Styled.fillTab offset t).1.Wears shows := by
  refine h.of_spans fun s hs => ?_
  obtain ⟨s', hs', rfl⟩ := List.mem_map.mp hs
  refine ⟨s', hs', ?_⟩
  unfold Span.extend
  split <;> rfl

theorem wears_joinTabs (offset : Nat) {parts : List Styled}
    (h : ∀ part ∈ parts, part.Wears shows) : (joinTabs offset parts).Wears shows := by
  fun_induction joinTabs offset parts with
  | case1 => exact wears_plain []
  | case2 _ last => exact h last List.mem_cons_self
  | case3 offset first rest _ filled stop hfill ih =>
    have hfilled := (h first List.mem_cons_self).fillTab offset
    rw [hfill] at hfilled
    exact hfilled.append (ih fun part hpart => h part (List.mem_cons_of_mem _ hpart))

theorem Wears.expandTabs (h : t.Wears shows) : t.expandTabs.Wears shows :=
  wears_joinTabs 0 (h.divide _)

end Styled

namespace Wrap

variable {shows : List Char → Prop} {t : Styled}

theorem wears_brokenLines (h : t.Wears shows) (width : Nat) (folds : Bool) :
    ∀ line ∈ brokenLines width folds t, line.Wears shows := by
  intro piece hpiece
  obtain ⟨line, hline, hmem⟩ := List.mem_flatMap.mp hpiece
  obtain ⟨part, hpart, rfl⟩ := List.mem_map.mp hmem
  exact ((h.lines line hline).expandTabs.divide _ part hpart).withChars _

/-- The lines of a running text wear what the text wears. -/
theorem wears_running (h : t.Wears shows) (width : Nat) :
    ∀ line ∈ running width t, line.Wears shows := by
  intro line hline
  obtain ⟨broken, hbroken, rfl⟩ := List.mem_map.mp hline
  have hwears := wears_brokenLines h width true broken hbroken
  split
  · exact hwears.withChars _
  · exact hwears

end Wrap

namespace Markup

/-! ## 2. Plain texts -/

/-- A text in which nothing can be taken for markup. -/
def IsPlain (cs : List Char) : Prop := ∀ c ∈ cs, c ≠ '[' ∧ c ≠ '\\'

instance (cs : List Char) : Decidable (IsPlain cs) :=
  List.decidableBAll (fun c => c ≠ '[' ∧ c ≠ '\\') cs

theorem IsPlain.append {cs ds : List Char} (hcs : IsPlain cs) (hds : IsPlain ds) :
    IsPlain (cs ++ ds) := fun c hc => (List.mem_append.mp hc).elim (hcs c) (hds c)

theorem IsPlain.of_subset {cs ds : List Char} (h : IsPlain cs) (hsub : ds ⊆ cs) : IsPlain ds :=
  fun c hc => h c (hsub hc)

theorem tagAt?_of_ne {c : Char} (h : c ≠ '[') (rest : List Char) : tagAt? (c :: rest) = none := by
  unfold tagAt?
  split
  · next heq => exact absurd (List.cons.inj heq).1 h
  · rfl

/-- The pieces of a plain text are its characters. -/
theorem pieces_plain_append {cs : List Char} (h : IsPlain cs) (fuel : Nat) (rest : List Char) :
    pieces (cs.length + fuel) 0 (cs ++ rest) = cs.map .plain ++ pieces fuel 0 rest := by
  induction cs with
  | nil => simp
  | cons c cs ih =>
    have hc := h c List.mem_cons_self
    rw [List.length_cons, Nat.add_right_comm, List.cons_append, pieces, if_neg hc.2,
      tagAt?_of_ne hc.1]
    simp [ih fun d hd => h d (List.mem_cons_of_mem _ hd)]

/-- A plain text is its own escape. -/
theorem escape_of_isPlain {s : String} (h : IsPlain s.toList) : escape s = s.toList := by
  have hpieces : piecesOf s.toList = s.toList.map .plain := by
    have hall := pieces_plain_append h 1 []
    rwa [List.append_nil, show pieces 1 0 [] = [] from rfl, List.append_nil] at hall
  have hchars : (s.toList.map Piece.plain).flatMap Piece.escaped = s.toList := by
    rw [List.flatMap_map]
    exact List.flatMap_singleton' s.toList
  have hend : endsInOneBackslash s.toList = false := by
    unfold endsInOneBackslash
    rw [Bool.and_eq_false_iff]
    left
    rw [← Bool.not_eq_true, List.isSuffixOf_iff_suffix]
    exact fun hsuffix => (h '\\' (hsuffix.subset List.mem_cons_self)).2 rfl
  rw [escape, hpieces, hchars]
  simp [hend]

/-! ## 3. Stretches -/

/-- A style that can be put out. -/
def CanShow (style : List Char) : Prop := Style.read [] (Text.words style) ≠ .partMissing

instance (style : List Char) : Decidable (CanShow style) :=
  inferInstanceAs (Decidable (Style.read [] (Text.words style) ≠ .partMissing))

/-- A word that opens a style and, behind a slash, closes it again. -/
structure NamesStyle (style : List Char) : Prop where
  opens : style.head?.any (fun c => beginsTag c && c != '/') = true
  inTag : style.all (fun c => c != '[' && c != ']' && c != '=') = true
  named : Style.normalName? style = some style
  notBlank : (Text.trim Text.isBlank style).isEmpty = false
  canShow : CanShow (style ++ [' '])

/-- The styles of reports. -/
inductive ReportStyle
  | cyan
  | dim
  | green
  | red
  | yellow

/-- The word for a style. -/
def ReportStyle.word : ReportStyle → List Char
  | .cyan => "cyan".toList
  | .dim => "dim".toList
  | .green => "green".toList
  | .red => "red".toList
  | .yellow => "yellow".toList

/-- The tags before and behind a text in a style. -/
def ReportStyle.opening (style : ReportStyle) : List Char := bracketed style.word

@[inherit_doc ReportStyle.opening]
def ReportStyle.closing (style : ReportStyle) : List Char := bracketed ('/' :: style.word)

theorem ReportStyle.namesStyle (style : ReportStyle) : NamesStyle style.word where
  opens := by cases style <;> decide
  inTag := by cases style <;> decide
  named := by cases style <;> decide +kernel
  notBlank := by cases style <;> decide
  canShow := by cases style <;> decide +kernel

/-- A stretch of a report: a plain text, or a plain text in a style. -/
inductive Stretch
  | bare (text : List Char) (hplain : IsPlain text)
  | styled (style : ReportStyle) (text : List Char) (hplain : IsPlain text)

/-- A stretch as it is written. -/
def Stretch.markup : Stretch → List Char
  | .bare text _ => text
  | .styled style text _ => style.opening ++ text ++ style.closing

/-- The pieces of a stretch. -/
def Stretch.pieces : Stretch → List Piece
  | .bare text _ => text.map .plain
  | .styled style text _ =>
    .tag 0 style.word :: (text.map .plain ++ [.tag 0 ('/' :: style.word)])

/-- Stretches as they are written one after the other. -/
def markupOf (stretches : List Stretch) : List Char := stretches.flatMap Stretch.markup

theorem closeTag?_append {inside : List Char} (h : ∀ c ∈ inside, c ≠ '[' ∧ c ≠ ']')
    (rest : List Char) : closeTag? (inside ++ ']' :: rest) = some (inside, rest) := by
  induction inside with
  | nil => rfl
  | cons c inside ih =>
    have hc := h c List.mem_cons_self
    rw [List.cons_append, closeTag?, ih fun d hd => h d (List.mem_cons_of_mem _ hd)]
    · rfl
    · exact hc.2
    · exact hc.1

theorem pieces_tag_append {c : Char} {inside : List Char} (hbegins : beginsTag c = true)
    (h : ∀ d ∈ inside, d ≠ '[' ∧ d ≠ ']') (fuel : Nat) (rest : List Char) :
    pieces (fuel + 1) 0 (bracketed (c :: inside) ++ rest) =
      .tag 0 (c :: inside) :: pieces fuel 0 rest := by
  have htag : tagAt? ('[' :: c :: (inside ++ ']' :: rest)) = some (c :: inside, rest) := by
    rw [tagAt?, if_pos hbegins, closeTag?_append h]
    rfl
  have hwritten : bracketed (c :: inside) ++ rest = '[' :: c :: (inside ++ ']' :: rest) := by
    simp [bracketed]
  rw [hwritten, pieces, if_neg (by decide), htag]

variable {style : List Char}

theorem NamesStyle.not_mem (h : NamesStyle style) {c : Char} (hc : c ∈ style) :
    (c ≠ '[' ∧ c ≠ ']') ∧ c ≠ '=' := by
  simpa only [Bool.and_eq_true, bne_iff_ne] using List.all_eq_true.mp h.inTag c hc

theorem NamesStyle.pieces_opening (h : NamesStyle style) (fuel : Nat) (rest : List Char) :
    pieces (fuel + 1) 0 (bracketed style ++ rest) = .tag 0 style :: pieces fuel 0 rest := by
  cases style with
  | nil => cases h.opens
  | cons c inside =>
    have hbegins : (beginsTag c && c != '/') = true := h.opens
    rw [Bool.and_eq_true] at hbegins
    exact pieces_tag_append hbegins.1 (fun d hd => (h.not_mem (List.mem_cons_of_mem _ hd)).1)
      fuel rest

theorem NamesStyle.pieces_closing (h : NamesStyle style) (fuel : Nat) (rest : List Char) :
    pieces (fuel + 1) 0 (bracketed ('/' :: style) ++ rest) =
      .tag 0 ('/' :: style) :: pieces fuel 0 rest :=
  pieces_tag_append (by decide) (fun _ hd => (h.not_mem hd).1) fuel rest

/-- Each tag and each plain character is a piece of its own, so as many pieces as characters are
enough. -/
theorem pieces_markupOf (stretches : List Stretch) {fuel : Nat}
    (hfuel : (markupOf stretches).length < fuel) :
    pieces fuel 0 (markupOf stretches) = stretches.flatMap Stretch.pieces := by
  induction stretches generalizing fuel with
  | nil =>
    cases fuel with
    | zero => omega
    | succ fuel => rfl
  | cons stretch rest ih =>
    have hmarkup : markupOf (stretch :: rest) = stretch.markup ++ markupOf rest := rfl
    rw [hmarkup, List.length_append] at hfuel
    rw [hmarkup, List.flatMap_cons]
    cases stretch with
    | bare text hplain =>
      obtain ⟨more, rfl⟩ : ∃ more, fuel = text.length + more :=
        Nat.exists_eq_add_of_le (by simp only [Stretch.markup] at hfuel; omega)
      rw [Stretch.markup, pieces_plain_append hplain, Stretch.pieces, ih]
      simp only [Stretch.markup] at hfuel
      omega
    | styled style text hplain =>
      have hlength : (Stretch.styled style text hplain).markup.length =
          2 * style.word.length + text.length + 5 := by
        simp only [Stretch.markup, ReportStyle.opening, ReportStyle.closing, bracketed,
          List.length_append, List.length_cons, List.length_nil]
        omega
      rw [hlength] at hfuel
      obtain ⟨more, rfl⟩ : ∃ more, fuel = (text.length + (more + 1)) + 1 :=
        ⟨fuel - text.length - 2, by omega⟩
      rw [Stretch.markup, List.append_assoc, List.append_assoc,
        ReportStyle.opening, style.namesStyle.pieces_opening, pieces_plain_append hplain,
        ReportStyle.closing, style.namesStyle.pieces_closing, ih (by omega), Stretch.pieces]
      simp

/-! ## 4. Rendering -/

theorem splitTag_of_noEquals {inside : List Char} (h : ∀ c ∈ inside, c ≠ '=') (start : Nat) :
    splitTag start inside = ⟨inside, [], start⟩ := by
  have hsafe : ∀ c ∈ inside, (c != '=') = true := fun c hc => bne_iff_ne.mpr (h c hc)
  have hname : (inside ++ []).takeWhile (· != '=') = inside ++ [] :=
    List.takeWhile_append_of_pos hsafe
  have hrest : (inside ++ []).dropWhile (· != '=') = [] := List.dropWhile_append_of_pos hsafe
  rw [List.append_nil] at hname hrest
  rw [splitTag, hname, hrest]
  rfl

theorem NamesStyle.styleName_eq (h : NamesStyle style) : styleName style = .ok style := by
  rw [styleName, h.named]

theorem NamesStyle.applyTag_opening (h : NamesStyle style) (position shown : Nat)
    (opened : List OpenTag) :
    applyTag position shown style opened = .ok (⟨style, [], shown⟩ :: opened, none) := by
  rw [applyTag, splitTag_of_noEquals fun c hc => (h.not_mem hc).2]
  cases style with
  | nil => cases h.opens
  | cons c rest =>
    have hopens : (beginsTag c && c != '/') = true := h.opens
    have hslash : c ≠ '/' := by
      simp only [Bool.and_eq_true, bne_iff_ne] at hopens
      exact hopens.2
    dsimp only
    split
    · next heq => exact absurd (List.cons.inj heq).1 hslash
    · rw [h.styleName_eq]
      rfl

theorem NamesStyle.applyTag_closing (h : NamesStyle style) (position shown start : Nat)
    (opened : List OpenTag) :
    applyTag position shown ('/' :: style) (⟨style, [], start⟩ :: opened) =
      .ok (opened, some ⟨start, shown, style ++ [' ']⟩) := by
  have hnoEquals : ∀ c ∈ '/' :: style, c ≠ '=' := by
    intro c hc
    rcases List.mem_cons.mp hc with rfl | hc
    · decide
    · exact (h.not_mem hc).2
  have hcheck : checkAction ⟨style, [], start⟩ = .ok () := by
    simp [checkAction]
  have htake : takeLast? style (⟨style, [], start⟩ :: opened) = some (⟨style, [], start⟩, opened) :=
    if_pos rfl
  rw [applyTag, splitTag_of_noEquals hnoEquals]
  show (if (Text.trim Text.isBlank style).isEmpty then _ else _ : Except Fault _) = _
  rw [h.notBlank, if_neg Bool.false_ne_true, h.styleName_eq]
  simp only [bind, Except.bind, htake, pure, Except.pure, hcheck]
  rfl

theorem renderPieces_plain (position shown : Nat) (opened : List OpenTag) (run text : List Char)
    (rest : List Piece) :
    renderPieces position shown opened run (text.map .plain ++ rest) =
      renderPieces (position + text.length) shown opened (text.reverse ++ run) rest := by
  induction text generalizing position run with
  | nil => rfl
  | cons c text ih =>
    rw [List.map_cons, List.cons_append, renderPieces, ih, List.length_cons, List.reverse_cons,
      List.append_assoc, Nat.add_right_comm, Nat.add_assoc]
    rfl

/-- A tag without backslashes is opened or closed behind the text that was put out before. -/
theorem renderPieces_tag (position shown : Nat) (opened : List OpenTag) (run inside : List Char)
    (rest : List Piece) :
    renderPieces position shown opened run (.tag 0 inside :: rest) = (do
      let before := showRun run.reverse
      let (opened, closed) ← applyTag position (shown + before.length) inside opened
      let after ← renderPieces (position + (bracketed inside).length) (shown + before.length) opened
        [] rest
      return ⟨before ++ after.chars, closed.toList ++ after.spans⟩) := by
  rw [renderPieces]
  simp only [Nat.zero_mod, Nat.zero_ne_one, if_false, Nat.zero_div, List.replicate_zero,
    List.append_nil, Nat.add_zero]

/-- A rendering that goes through, with styles that can be put out. -/
def Renders (rendering : Except Fault Styled) : Prop :=
  ∃ t, rendering = .ok t ∧ t.Wears CanShow

/-- A tag that is not refused leaves the rendering to what follows. -/
theorem renders_tag {position shown : Nat} {inside : List Char} {opened opened' : List OpenTag}
    {run : List Char} {closed : Option Span} {rest : List Piece}
    (htag : applyTag position (shown + (showRun run.reverse).length) inside opened =
      .ok (opened', closed))
    (hclosed : ∀ s ∈ closed, CanShow s.style)
    (hrest : ∀ position shown, Renders (renderPieces position shown opened' [] rest)) :
    Renders (renderPieces position shown opened run (.tag 0 inside :: rest)) := by
  obtain ⟨after, hafter, hwears⟩ := hrest (position + (bracketed inside).length)
    (shown + (showRun run.reverse).length)
  refine ⟨⟨showRun run.reverse ++ after.chars, closed.toList ++ after.spans⟩, ?_, ?_⟩
  · rw [renderPieces_tag]
    dsimp only
    rw [htag]
    show (renderPieces _ _ opened' [] rest >>= fun _ => _ : Except Fault Styled) = _
    rw [hafter]
    rfl
  · intro s hs
    rcases List.mem_append.mp hs with hs | hs
    · exact hclosed s (Option.mem_toList.mp hs)
    · exact hwears s hs

/-- **Stretches are rendered**, wherever they stand. -/
theorem renders_stretches (stretches : List Stretch) (position shown : Nat) (run : List Char) :
    Renders (renderPieces position shown [] run (stretches.flatMap Stretch.pieces)) := by
  induction stretches generalizing position shown run with
  | nil => exact ⟨_, rfl, Styled.wears_plain _⟩
  | cons stretch rest ih =>
    rw [List.flatMap_cons]
    cases stretch with
    | bare text _ =>
      rw [Stretch.pieces, renderPieces_plain]
      exact ih _ _ _
    | styled style text _ =>
      -- The stretch closes its tag, so the next one finds none open again.
      rw [Stretch.pieces, List.cons_append, List.append_assoc]
      refine renders_tag (style.namesStyle.applyTag_opening _ _ _) (fun _ hs => nomatch hs) ?_
      intro position shown
      rw [renderPieces_plain]
      refine renders_tag (style.namesStyle.applyTag_closing _ _ _ _) ?_ fun position shown => ih _ _ _
      intro s hs
      cases hs
      exact style.namesStyle.canShow

theorem renders_markupOf (stretches : List Stretch) : Renders (render (markupOf stretches)) := by
  unfold render
  split
  · rw [piecesOf, pieces_markupOf stretches (Nat.lt_succ_self _)]
    exact renders_stretches stretches 0 0 []
  · exact ⟨_, rfl, Styled.wears_plain _⟩

theorem forM_checkSpan {spans : List Span} (h : ∀ s ∈ spans, CanShow s.style) :
    spans.forM checkSpan = .ok () := by
  induction spans with
  | nil => rfl
  | cons s rest ih =>
    have hs : checkSpan s = .ok () := if_neg (h s List.mem_cons_self)
    show (checkSpan s >>= fun _ => rest.forM checkSpan) = _
    rw [hs]
    exact ih fun s' hs' => h s' (List.mem_cons_of_mem _ hs')

theorem settleLines_isOk {lines : List Styled} (h : ∀ line ∈ lines, line.Wears CanShow)
    (width : Nat) (pads : Bool) :
    settleLines width pads lines = .ok (lines.map (Styled.settle width pads)) := by
  have hspans : ∀ s ∈ lines.flatMap (·.spans), CanShow s.style := by
    intro s hs
    obtain ⟨line, hline, hmem⟩ := List.mem_flatMap.mp hs
    exact h line hline s hmem
  rw [settleLines, forM_checkSpan hspans]
  rfl

end Markup

/-! ## 5. Reports -/

namespace Report

open Markup (IsPlain ReportStyle Stretch markupOf)

/-- **A paragraph of stretches has no fault.** -/
theorem paragraph_markupOf (width : Nat) (stretches : List Stretch) :
    ∃ text, paragraph width (markupOf stretches) = .ok text := by
  obtain ⟨shown, hrender, hwears⟩ := Markup.renders_markupOf stretches
  have hsettle := Markup.settleLines_isOk (Wrap.wears_running hwears width) width false
  rw [paragraph, hrender]
  show ∃ text, (if width = 0 then _ else Markup.settleLines width false _ >>= _ : Result) = .ok text
  rw [hsettle]
  split
  · exact ⟨"", rfl⟩
  · exact ⟨_, rfl⟩

theorem isPlain_repr (n : Nat) : IsPlain n.repr.toList := by
  intro c hc
  have hdigit : c.isDigit = true := by
    rw [Nat.repr, String.toList_ofList] at hc
    exact Nat.isDigit_of_mem_toDigits (by decide) (by decide) hc
  refine ⟨?_, ?_⟩ <;> rintro rfl <;> exact absurd hdigit (by decide)

theorem isPlain_toString (n : Int) : IsPlain (toString n).toList := by
  cases n with
  | ofNat n => exact isPlain_repr n
  | negSucc n =>
    show IsPlain ("-" ++ (n + 1).repr).toList
    rw [String.toList_append]
    exact IsPlain.append (by decide) (isPlain_repr _)

theorem concat_isOk {parts : List Result} (h : ∀ part ∈ parts, ∃ text, part = .ok text) :
    ∃ text, concat parts = .ok text := by
  induction parts with
  | nil => exact ⟨"", rfl⟩
  | cons first rest ih =>
    obtain ⟨text, rfl⟩ := h first List.mem_cons_self
    obtain ⟨more, hmore⟩ := ih fun part hpart => h part (List.mem_cons_of_mem _ hpart)
    exact ⟨text ++ more, by rw [concat, hmore]; rfl⟩

theorem sweepSentence_isOk (width : Nat) (scanned deleted skipped : Int) :
    ∃ text, paragraph width (sweepSentence scanned deleted skipped).toList = .ok text := by
  have hscanned : "Scanned [cyan]".toList = "Scanned ".toList ++ ReportStyle.cyan.opening := by
    decide
  have hdeleted : "[/cyan] references, deleted [green]".toList =
      ReportStyle.cyan.closing ++ " references, deleted ".toList ++ ReportStyle.green.opening := by
    decide
  have hskipped : "[/green], skipped [dim]".toList =
      ReportStyle.green.closing ++ ", skipped ".toList ++ ReportStyle.dim.opening := by
    decide
  have hend : "[/dim]".toList = ReportStyle.dim.closing := by decide
  have hmarkup : (sweepSentence scanned deleted skipped).toList = markupOf
      [.bare "Scanned ".toList (by decide), .styled .cyan _ (isPlain_toString scanned),
        .bare " references, deleted ".toList (by decide),
        .styled .green _ (isPlain_toString deleted), .bare ", skipped ".toList (by decide),
        .styled .dim _ (isPlain_toString skipped)] := by
    unfold sweepSentence
    simp only [String.toList_append, hscanned, hdeleted, hskipped, hend, markupOf,
      List.flatMap_cons, List.flatMap_nil, Stretch.markup, List.append_assoc, List.append_nil]
  rw [hmarkup]
  exact paragraph_markupOf width _

theorem deletedLine_isOk (width : Nat) {name : RefName} (hname : IsPlain name.toList) :
    ∃ text, paragraph width (deletedLine name) = .ok text := by
  have hwords : "  [red]deleted[/red] ".toList = "  ".toList ++ ReportStyle.red.opening ++
      "deleted".toList ++ ReportStyle.red.closing ++ [' '] := by
    decide
  have hmarkup : deletedLine name = markupOf
      [.bare "  ".toList (by decide), .styled .red "deleted".toList (by decide),
        .bare ([' '] ++ name.toList) (IsPlain.append (by decide) hname)] := by
    unfold deletedLine
    simp only [Markup.escape_of_isPlain hname, hwords, markupOf, List.flatMap_cons,
      List.flatMap_nil, Stretch.markup, List.append_assoc, List.append_nil]
  rw [hmarkup]
  exact paragraph_markupOf width _

/-- **The report on a sweep has no fault** if the names of the deleted pins are plain. -/
theorem sweep_isOk (width : Nat) (scanned skipped : Int) {deleted : List RefName}
    (hdeleted : ∀ name ∈ deleted, IsPlain name.toList) (listsNames : Bool) :
    ∃ text, sweep width scanned skipped deleted listsNames = .ok text := by
  refine concat_isOk fun part hpart => ?_
  rcases List.mem_cons.mp hpart with rfl | hpart
  · exact sweepSentence_isOk width scanned deleted.length skipped
  · split at hpart
    · obtain ⟨name, hname, rfl⟩ := List.mem_map.mp hpart
      exact deletedLine_isOk width (hdeleted name hname)
    · exact nomatch hpart

end Report
end CommitStore
