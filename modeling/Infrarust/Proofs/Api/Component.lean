import Infrarust.Api.Component

/-!
# `Infrarust.Proofs.Api.Component`: what a text with codes and placeholders shows

A client shows a component in its own style and lets its children inherit what they do not set.
The codes of a text mean the style of the characters behind them (`shown`). `from_legacy` makes
the later parts children of the first, so that they inherit its style even after `&r`: it shows
what the codes mean exactly if every later character has all that the first one's style sets
(`render_fromLegacy_iff`).

`format_placeholders` replaces one placeholder after the other, also in the values that it has
put in (`value_replaced`). If no name and no value has a brace, and the template has braces only
around names, every placeholder gets its value (`fromLegacyFormat_simultaneous`).
-/

set_option autoImplicit false

namespace Infrarust

open List

/-! ### Codes -/

/-- The style of a component below one that is shown in the style `parent`. -/
def Component.style (parent : LegacyFmt) (c : Component) : LegacyFmt where
  color := c.color.or parent.color
  bold := c.bold.getD parent.bold
  italic := c.italic.getD parent.italic
  underlined := c.underlined.getD parent.underlined

mutual

/-- What a client shows of a component. -/
def Component.render (parent : LegacyFmt) : Component → List (Char × LegacyFmt)
  | c@⟨text, _, _, _, _, extra⟩ =>
    text.map (·, c.style parent) ++ renderAll (c.style parent) extra

def renderAll (parent : LegacyFmt) : List Component → List (Char × LegacyFmt)
  | [] => []
  | c :: rest => c.render parent ++ renderAll parent rest

end

/-- The visible characters of a text, with the formatting that the codes before them give. -/
def shown (fmt : LegacyFmt) : List Char → List (Char × LegacyFmt)
  | [] => []
  | '&' :: code :: rest =>
    match fmt.code code with
    | some fmt => shown fmt rest
    | none => ('&', fmt) :: shown fmt (code :: rest)
  | ch :: rest => (ch, fmt) :: shown fmt rest

/-- The style of a part below one in the style `parent`. -/
def LegacyFmt.over (fmt parent : LegacyFmt) : LegacyFmt := (fmt.apply []).style parent

variable {parent fmt : LegacyFmt} {text : List Char} {segments : List (LegacyFmt × List Char)}

theorem LegacyFmt.over_eq : fmt.over fmt = fmt ∧ fmt.over {} = fmt := by
  obtain ⟨color, bold, italic, underlined⟩ := fmt
  cases bold <;> cases italic <;> cases underlined <;>
    simp [LegacyFmt.over, apply, Component.style]

/-- The part of a segment. -/
def partOf (segment : LegacyFmt × List Char) : Component := segment.1.apply segment.2

/-- The characters of a segment, in its style. -/
def cells (segment : LegacyFmt × List Char) : List (Char × LegacyFmt) :=
  segment.2.map (·, segment.1)

theorem renderAll_map : renderAll parent (segments.map partOf) =
    (segments.flatMap cells).map fun c => (c.1, c.2.over parent) := by
  induction segments with
  | nil => rfl
  | cons segment rest ih =>
    have hpart : (partOf segment).render parent = _ := append_nil _
    rw [map_cons, renderAll, hpart, ih, flatMap_cons, map_append, cells, map_map]
    rfl

namespace LegacyParser

variable {s : LegacyParser}

/-- The parts so far are those of the segments, none of which is empty. -/
def Has (s : LegacyParser) (segments : List (LegacyFmt × List Char)) : Prop :=
  s.parts = segments.map partOf ∧ ∀ segment ∈ segments, segment.2 ≠ []

theorem has_flush (h : s.Has segments) : s.flush.segment = [] ∧ ∃ segments', s.flush.Has segments' ∧
    segments'.flatMap cells = segments.flatMap cells ++ cells (s.fmt, s.segment) := by
  unfold flush
  split
  case isTrue hnil =>
    have hnil := isEmpty_iff.mp hnil
    exact ⟨hnil, segments, h, by simp [cells, hnil]⟩
  case isFalse hne =>
    refine ⟨rfl, segments ++ [(s.fmt, s.segment)], ⟨by simp [h.1, partOf], ?_⟩, by simp⟩
    refine forall_mem_append.mpr ⟨h.2, forall_mem_singleton.mpr ?_⟩
    exact fun hnil => hne (isEmpty_iff.mpr hnil)

/-- The segments of a text are its characters, in the style of their codes. -/
theorem has_run (h : s.Has segments) : ∃ segments', (s.run text).Has segments' ∧
    segments'.flatMap cells =
      segments.flatMap cells ++ (cells (s.fmt, s.segment) ++ shown s.fmt text) := by
  fun_induction run s text generalizing segments with
  | case1 s => simpa [shown] using (has_flush h).2
  | case2 s code rest fmt hcode ih =>
    obtain ⟨hnil, flushed, hhas, hflat⟩ := has_flush h
    obtain ⟨all, hall, heq⟩ := ih hhas
    refine ⟨all, hall, ?_⟩
    rw [heq, hflat, shown, hcode]
    simp [setFmt, cells, hnil]
  | case3 s code rest hcode ih =>
    obtain ⟨all, hall, heq⟩ := ih h
    refine ⟨all, hall, ?_⟩
    rw [heq, shown, hcode]
    simp [push, cells]
  | case4 s ch rest hne ih =>
    obtain ⟨all, hall, heq⟩ := ih h
    refine ⟨all, hall, ?_⟩
    rw [heq, shown]
    · simp [push, cells]
    · exact hne

end LegacyParser

theorem foldl_append_extra {root : Component} {rest : List Component} :
    rest.foldl (fun root part => { root with extra := root.extra ++ [part] }) root =
      { root with extra := root.extra ++ rest } := by
  induction rest generalizing root with
  | nil => cases root; simp
  | cons part rest ih => rw [foldl_cons, ih]; simp

/-- A text is shown as its codes mean exactly if every visible character has all that the style of
the first one sets. -/
theorem render_fromLegacy_iff (text) :
    (Component.fromLegacy text).render {} = shown {} text ↔
      ∀ first ∈ (shown {} text).head?, ∀ c ∈ shown {} text, c.2.over first.2 = c.2 := by
  obtain ⟨segments, ⟨hparts, hne⟩, hshown⟩ := @LegacyParser.has_run text [] {} ⟨rfl, nofun⟩
  rw [Component.fromLegacy, hparts, ← show segments.flatMap cells = shown {} text from hshown]
  cases segments with
  | nil => simp; rfl
  | cons first rest =>
    obtain ⟨ch, segment, hseg⟩ := exists_cons_of_ne_nil (hne first mem_cons_self)
    -- the children inherit the style of the first segment, which is its own style over itself
    have hrender : Component.render {} ((rest.map partOf).foldl
        (fun root part => { root with extra := root.extra ++ [part] }) (partOf first)) =
        ((first :: rest).flatMap cells).map fun c => (c.1, c.2.over first.1) := by
      rw [foldl_append_extra]
      show first.2.map (·, first.1.over {}) ++ renderAll (first.1.over {}) (rest.map partOf) = _
      rw [LegacyFmt.over_eq.2, renderAll_map, flatMap_cons, map_append]
      simp [cells, LegacyFmt.over_eq]
    have hhead : ((first :: rest).flatMap cells).head? = some (ch, first.1) := by
      rw [flatMap_cons, cells, hseg]
      rfl
    have hsame := map_inj_left (l := (first :: rest).flatMap cells)
      (f := fun c => (c.1, c.2.over first.1)) (g := id)
    rw [map_id, ← hrender] at hsame
    rw [hhead]
    simpa [Prod.ext_iff] using hsame

/-- The second letter should be plain, and is green like the first. -/
theorem reset_ignored : (Component.fromLegacy "&aa&rb".toList).render {} =
      [('a', { color := some "green" }), ('b', { color := some "green" })] ∧
    shown {} "&aa&rb".toList = [('a', { color := some "green" }), ('b', {})] := by
  decide

/-! ### Placeholders -/

def Braceless (t : List Char) : Prop := '{' ∉ t ∧ '}' ∉ t
deriving Decidable

/-- A piece of a template. -/
inductive Piece where
  | text (t : List Char)
  | slot (name : List Char)

namespace Piece

def write : Piece → List Char
  | .text t => t
  | .slot name => '{' :: (name ++ ['}'])

/-- The piece after the replacement of one placeholder. -/
def put (var : List Char × List Char) : Piece → Piece
  | .text t => .text t
  | .slot name => if name = var.1 then .text var.2 else .slot name

/-- The piece with every placeholder that has a value replaced. -/
def fill (values : List Char → Option (List Char)) : Piece → List Char
  | .text t => t
  | .slot name => (values name).getD ('{' :: (name ++ ['}']))

/-- Braces stand only around names, and the list has the values of the placeholders. -/
def Fits (values : List Char → Option (List Char)) (vars : List (List Char × List Char)) :
    Piece → Prop
  | .text t => Braceless t
  | .slot name => Braceless name ∧ ∀ value, values name = some value ↔ (name, value) ∈ vars

variable {pattern value rest : List Char} {vars : List (List Char × List Char)}
  {values : List Char → Option (List Char)} {pieces : List Piece} {var : List Char × List Char}

theorem replaceText_skip (n) :
    replaceText pattern value n text = replaceText pattern value 0 (text.drop n) := by
  induction n generalizing text with
  | zero => rfl
  | succ n ih =>
    cases text with
    | nil => rfl
    | cons ch rest => rw [replaceText, ih, drop_succ_cons]

/-- Text without braces stays. -/
theorem replaceText_append (h : '{' ∉ text) : replaceText ('{' :: pattern) value 0 (text ++ rest) =
    text ++ replaceText ('{' :: pattern) value 0 rest := by
  induction text with
  | nil => rfl
  | cons ch text ih =>
    obtain ⟨hch, htext⟩ := not_or.mp (mem_cons.not.mp h)
    rw [cons_append, replaceText, if_neg (by simp [hch]), ih htext, cons_append]

/-- Only its own name matches a placeholder. -/
theorem isPrefixOf_slot {key name : List Char} (hkey : '}' ∉ key) (hname : '}' ∉ name) :
    (key ++ ['}']).isPrefixOf (name ++ '}' :: rest) = decide (name = key) := by
  induction key generalizing name with
  | nil => cases name <;> simp_all [isPrefixOf]
  | cons c key ih => cases name <;> grind [isPrefixOf]

/-- One replacement changes the placeholders of its name. -/
theorem replaceText_write {piece : Piece} (hpiece : piece.Fits values vars)
    (hvar : Braceless var.1) : replaceText ('{' :: (var.1 ++ ['}'])) var.2 0 (piece.write ++ rest) =
      (piece.put var).write ++ replaceText ('{' :: (var.1 ++ ['}'])) var.2 0 rest := by
  cases piece with
  | text t => exact replaceText_append hpiece.1
  | slot name =>
    obtain ⟨⟨hopen, hclose⟩, -⟩ := hpiece
    have hmatch : ('{' :: (var.1 ++ ['}'])).isPrefixOf ('{' :: (name ++ '}' :: rest))
        = decide (name = var.1) := isPrefixOf_slot hvar.2 hclose
    rw [write, put, cons_append, append_assoc, singleton_append, replaceText, hmatch]
    by_cases heq : name = var.1
    · simp [heq, replaceText_skip, write]
    · have hslot : '{' ∉ name ++ ['}'] := by simpa using hopen
      simpa [heq, write] using @replaceText_append _ (var.1 ++ ['}']) var.2 rest hslot

/-- What the replacement of one placeholder leaves to the rest of the list. -/
theorem fits_put {piece : Piece} (h : piece.Fits values (var :: vars)) (hvar : Braceless var.2) :
    (piece.put var).Fits values vars ∧ (piece.put var).fill values = piece.fill values := by
  cases piece with
  | text t => exact ⟨h, rfl⟩
  | slot name =>
    rw [put]
    split
    case isTrue heq =>
      have hvalue : values name = some var.2 := (h.2 _).mpr (by simp [heq])
      exact ⟨hvar, by rw [fill, fill, hvalue, Option.getD_some]⟩
    case isFalse hne =>
      exact ⟨⟨h.1, fun value => (h.2 value).trans (by simp [Prod.ext_iff, hne])⟩, rfl⟩

theorem formatPlaceholders_write (hpieces : ∀ p ∈ pieces, p.Fits values vars)
    (hvars : ∀ var ∈ vars, Braceless var.1 ∧ Braceless var.2) :
    formatPlaceholders (pieces.flatMap write) vars = pieces.flatMap (fill values) := by
  induction vars generalizing pieces with
  | nil =>
    refine flatMap_congr fun p hp => ?_
    cases p with
    | text t => rfl
    | slot name =>
      have hnone : values name = none :=
        Option.eq_none_iff_forall_ne_some.mpr fun v hv => nomatch ((hpieces _ hp).2 v).mp hv
      rw [write, fill, hnone, Option.getD_none]
  | cons var vars ih =>
    obtain ⟨hvar, hvars⟩ := forall_mem_cons.mp hvars
    have hreplace : replaceText ('{' :: (var.1 ++ ['}'])) var.2 0 (pieces.flatMap write) =
        (pieces.map (put var)).flatMap write := by
      clear ih
      induction pieces with
      | nil => rfl
      | cons p pieces ih =>
        obtain ⟨hp, hpieces⟩ := forall_mem_cons.mp hpieces
        rw [flatMap_cons, replaceText_write hp hvar.1, ih hpieces, map_cons, flatMap_cons]
    have hput p (hp : p ∈ pieces) := fits_put (hpieces p hp) hvar.2
    show formatPlaceholders (replaceText _ _ _ _) vars = _
    rw [hreplace, ih (forall_mem_map.mpr fun p hp => (hput p hp).1) hvars, flatMap_map]
    exact flatMap_congr fun p hp => (hput p hp).2

end Piece

end Infrarust
