import Hexscope.Proofs.Config.Accept
import Hexscope.Proofs.Text.Numeral

/-!
# Colours of palettes

A colour is a number sign and six code points that read as a hexadecimal numeral. Six hexadecimal digits do, but
so do a sign or a mark with fewer digits, digits with an underscore between them, blanks around them, and digits
of another script. Such a disguised colour is accepted, and stored as it is but for the case of its letters.

* `Config.isColour_iff`: the texts that are accepted as colours;
* `Config.isStored_inUpperCase_iff`: which of them are stored in the usual form;
* `Config.paletteOf_eq_ok_iff`: the palette entries that are accepted, and the palettes that they give;
* `Config.colours_iff`: the same of all palettes of a configuration.
-/

namespace Hexscope.Config

open Text.Integer (HexDigit Digits Numeral plain plainChar)

variable {s : Text} {p : CodePoint}

/-! ## Texts -/

/-- A hexadecimal digit of ASCII. -/
def IsHexPoint (p : CodePoint) : Prop := ∃ c, p = .char c ∧ HexDigit c

/-- A number sign and six hexadecimal digits. -/
def IsHexColour (s : Text) : Prop :=
  ∃ ps, s.points = .char '#' :: ps ∧ ps.length = 6 ∧ ∀ p ∈ ps, IsHexPoint p

/-- A number sign and six code points that are a hexadecimal numeral, but not six hexadecimal digits. -/
def IsDisguised (s : Text) : Prop :=
  ∃ ps, s.points = .char '#' :: ps ∧ ps.length = 6 ∧ Numeral (ps.map plain) ∧ ∃ p ∈ ps, ¬ IsHexPoint p

theorem plainChar_of_hexDigit {c : Char} (h : HexDigit c) : plainChar c = c :=
  if_pos (Text.Integer.lt_of_hexDigit h)

/-- Hexadecimal digits are a numeral by themselves. -/
theorem numeral_of_isHexPoint {ps : List CodePoint} (nonempty : ps ≠ []) (digits : ∀ p ∈ ps, IsHexPoint p) :
    Numeral (ps.map plain) := by
  have reads : Digits (ps.map plain) := by
    induction ps with
    | nil => exact absurd rfl nonempty
    | cons p ps ih =>
      obtain ⟨c, rfl, digit⟩ := digits p List.mem_cons_self
      have first : HexDigit (plain (.char c)) := by
        rw [plain, plainChar_of_hexDigit digit]
        exact digit
      cases ps with
      | nil => exact .one first
      | cons q qs => exact .more first (ih (by simp) fun p mem => digits p (List.mem_cons_of_mem _ mem))
  have whole := @Numeral.mk [] [] [] _ [] (by simp) (by decide) (by decide) reads (by simp)
  simpa using whole

/-- The texts that are accepted as colours. -/
theorem isColour_iff : isColour s = true ↔ IsHexColour s ∨ IsDisguised s := by
  have reads : isColour s = true ↔
      ∃ ps, s.points = .char '#' :: ps ∧ ps.length = 6 ∧ Numeral (ps.map plain) := by
    unfold isColour
    split
    · rename_i ps points
      simp [points, Text.Integer.isSome_hexadecimal?_iff]
    · rename_i other
      exact iff_of_false (by simp) fun ⟨ps, points, _⟩ => other ps points
  rw [reads]
  constructor
  · rintro ⟨ps, points, six, numeral⟩
    by_cases digits : ∀ p ∈ ps, IsHexPoint p
    · exact .inl ⟨ps, points, six, digits⟩
    · refine .inr ⟨ps, points, six, numeral, ?_⟩
      simpa using digits
  · rintro (⟨ps, points, six, digits⟩ | ⟨ps, points, six, numeral, -⟩)
    · exact ⟨ps, points, six, numeral_of_isHexPoint (by rintro rfl; cases six) digits⟩
    · exact ⟨ps, points, six, numeral⟩

theorem IsHexColour.not_isDisguised (h : IsHexColour s) : ¬ IsDisguised s := by
  obtain ⟨ps, points, _, digits⟩ := h
  rintro ⟨qs, points', _, _, p, mem, other⟩
  rw [points] at points'
  exact other (digits p ((List.cons.inj points').2 ▸ mem))

/-! ## Stored colours -/

/-- A text with its ASCII letters in upper case. -/
def inUpperCase (s : Text) : Text := ⟨s.points.map upperDigit⟩

/-- A number sign and six of the digits `0` to `9` and `A` to `F`. -/
def IsStored (s : Text) : Prop :=
  ∃ ps, s.points = .char '#' :: ps ∧ ps.length = 6 ∧
    ∀ p ∈ ps, ∃ c, p = .char c ∧ (('0' ≤ c ∧ c ≤ '9') ∨ ('A' ≤ c ∧ c ≤ 'F'))

theorem isUpper_toUpper_iff (c : Char) :
    (('0' ≤ c.toUpper ∧ c.toUpper ≤ '9') ∨ ('A' ≤ c.toUpper ∧ c.toUpper ≤ 'F')) ↔ HexDigit c := by
  by_cases ascii : c.toNat < 127
  · have all : ∀ k < 127, (('0' ≤ (Char.ofNat k).toUpper ∧ (Char.ofNat k).toUpper ≤ '9') ∨
        ('A' ≤ (Char.ofNat k).toUpper ∧ (Char.ofNat k).toUpper ≤ 'F')) ↔ HexDigit (Char.ofNat k) := by
      decide +kernel
    exact Text.forall_ascii (p := fun c => (('0' ≤ c.toUpper ∧ c.toUpper ≤ '9') ∨
      ('A' ≤ c.toUpper ∧ c.toUpper ≤ 'F')) ↔ HexDigit c) all ascii
  · have beyond {d : Char} (small : d.toNat < 127) : ¬ c ≤ d := fun h =>
      ascii (Nat.lt_of_le_of_lt (Text.Integer.le_iff_toNat_le.mp h) small)
    have same : c.toUpper = c := by
      unfold Char.toUpper
      split
      · rename_i small
        exact absurd small.2 (beyond (by decide))
      · rfl
    rw [same]
    refine iff_of_false ?_ fun h => ascii (Text.Integer.lt_of_hexDigit h)
    rintro (h | h)
    · exact beyond (by decide) h.2
    · exact beyond (by decide) h.2

/-- Of the colours that are accepted, the disguised ones are not stored in the usual form. -/
theorem isStored_inUpperCase_iff (accepted : IsHexColour s ∨ IsDisguised s) :
    IsStored (inUpperCase s) ↔ ¬ IsDisguised s := by
  have stored (p : CodePoint) : (∃ c, upperDigit p = .char c ∧
      (('0' ≤ c ∧ c ≤ '9') ∨ ('A' ≤ c ∧ c ≤ 'F'))) ↔ IsHexPoint p := by
    cases p with
    | char c => simp [upperDigit, IsHexPoint, isUpper_toUpper_iff]
    | half k => simp [upperDigit, IsHexPoint]
  rcases accepted with hex | disguised
  · refine iff_of_true ?_ hex.not_isDisguised
    obtain ⟨ps, points, six, digits⟩ := hex
    refine ⟨ps.map upperDigit, ?_, by rw [List.length_map, six], fun q mem => ?_⟩
    · rw [inUpperCase, points]
      rfl
    · obtain ⟨p, here, rfl⟩ := List.mem_map.mp mem
      exact (stored p).mpr (digits p here)
  · refine iff_of_false ?_ (not_not_intro disguised)
    obtain ⟨ps, points, six, _, p, here, other⟩ := disguised
    rintro ⟨qs, points', _, digits⟩
    have parts : ps.map upperDigit = qs := by
      rw [inUpperCase, points] at points'
      exact (List.cons.inj points').2
    exact other ((stored p).mp (digits _ (parts ▸ List.mem_map.mpr ⟨p, here, rfl⟩)))

/-! ## Palettes -/

/-- The text of the value under a name, as it is shown at a place. -/
def TextUnder (host : Host) (place : Place) (fields : List (Value × Value)) (key : String) (s : Text) : Prop :=
  ∃ v, Value.lookup? fields key = some v ∧ v.shown (host.room place) = .ok s

/-- The text under a name is accepted as a colour. -/
def ColourUnder (host : Host) (fields : List (Value × Value)) (key : String) (s : Text) : Prop :=
  TextUnder host .colour fields key s ∧ (IsHexColour s ∨ IsDisguised s)

/-- A palette is what the fields of a palette entry say. -/
structure GivenBy (host : Host) (fields : List (Value × Value)) (p : Palette) : Prop where
  id : TextUnder host .label fields "id" p.id
  /-- Without a name, the identifier is the name. -/
  name : TextUnder host .label fields "name" p.name ∨ (Value.lookup? fields "name" = none ∧ p.name = p.id)
  on : ∃ s, ColourUnder host fields "foreground" s ∧ p.on = inUpperCase s
  off : ∃ s, ColourUnder host fields "background" s ∧ p.off = inUpperCase s

variable {host : Host}

theorem colour_eq_ok_iff {v : Value} {t : Text} :
    colour host v = .ok t ↔ ∃ s, v.shown (host.room .colour) = .ok s ∧ (IsHexColour s ∨ IsDisguised s) ∧ t = inUpperCase s := by
  simp only [← isColour_iff]
  constructor
  · intro accepted
    obtain ⟨s, shows, accepted⟩ := exists_of_bind_eq_ok accepted
    split at accepted
    · rename_i reads
      exact ⟨s, shown_eq_ok_iff.mp shows, reads, (Except.ok.inj accepted).symm⟩
    · obtain ⟨_, _, thrown⟩ := exists_of_bind_eq_ok accepted
      cases thrown
  · rintro ⟨s, shows, reads, rfl⟩
    unfold colour
    rw [shown_eq_ok_iff.mpr shows]
    exact if_pos reads

theorem field_eq_ok_iff {entry : Value} {fields : List (Value × Value)} {key : String} {v : Value} :
    field host entry fields key = .ok v ↔ Value.lookup? fields key = some v := by
  unfold field
  cases Value.lookup? fields key with
  | some w => simp
  | none =>
    refine iff_of_false (fun h => ?_) (by simp)
    obtain ⟨_, _, thrown⟩ := exists_of_bind_eq_ok h
    cases thrown

/-- A palette entry is accepted if it is a mapping with an identifier and two colours, and then gives the palette
of its fields. -/
theorem paletteOf_eq_ok_iff {entry : Value} {p : Palette} :
    paletteOf host entry = .ok p ↔ ∃ fields, entry.unfolded = .mapping fields ∧ GivenBy host fields p := by
  constructor
  · intro accepted
    unfold paletteOf at accepted
    split at accepted
    · rename_i fields mapping
      obtain ⟨idValue, idFound, accepted⟩ := exists_of_bind_eq_ok accepted
      obtain ⟨id, idShown, accepted⟩ := exists_of_bind_eq_ok accepted
      obtain ⟨name, named, accepted⟩ := exists_of_bind_eq_ok accepted
      obtain ⟨onValue, onFound, accepted⟩ := exists_of_bind_eq_ok accepted
      obtain ⟨on, onRead, accepted⟩ := exists_of_bind_eq_ok accepted
      obtain ⟨offValue, offFound, accepted⟩ := exists_of_bind_eq_ok accepted
      obtain ⟨off, offRead, accepted⟩ := exists_of_bind_eq_ok accepted
      cases accepted
      obtain ⟨onText, onShown, onColour, rfl⟩ := colour_eq_ok_iff.mp onRead
      obtain ⟨offText, offShown, offColour, rfl⟩ := colour_eq_ok_iff.mp offRead
      refine ⟨fields, mapping, ⟨idValue, field_eq_ok_iff.mp idFound, shown_eq_ok_iff.mp idShown⟩, ?_,
        ⟨onText, ⟨⟨onValue, field_eq_ok_iff.mp onFound, onShown⟩, onColour⟩, rfl⟩,
        ⟨offText, ⟨⟨offValue, field_eq_ok_iff.mp offFound, offShown⟩, offColour⟩, rfl⟩⟩
      cases nameFound : Value.lookup? fields "name" with
      | none =>
        rw [nameFound] at named
        exact .inr ⟨rfl, (Except.ok.inj named).symm⟩
      | some v =>
        rw [nameFound] at named
        exact .inl ⟨v, nameFound, shown_eq_ok_iff.mp named⟩
    · obtain ⟨_, _, thrown⟩ := exists_of_bind_eq_ok accepted
      cases thrown
  · rintro ⟨fields, mapping, given⟩
    obtain ⟨id, name, on, off⟩ := p
    obtain ⟨⟨idValue, idFound, idShown⟩, named, ⟨onText, ⟨⟨onValue, onFound, onShown⟩, onColour⟩, onStored⟩,
      offText, ⟨⟨offValue, offFound, offShown⟩, offColour⟩, offStored⟩ := given
    have nameRead : ((Value.lookup? fields "name").map (host.shown .label)).getD (.ok id) = .ok name := by
      rcases named with ⟨v, found, shows⟩ | ⟨missing, same⟩
      · rw [found]
        exact shown_eq_ok_iff.mpr shows
      · rw [missing]
        exact congrArg Except.ok same.symm
    unfold paletteOf
    rw [mapping]
    simp only [field_eq_ok_iff.mpr idFound, shown_eq_ok_iff.mpr idShown, nameRead, field_eq_ok_iff.mpr onFound,
      field_eq_ok_iff.mpr offFound, colour_eq_ok_iff.mpr ⟨onText, onShown, onColour, onStored⟩,
      colour_eq_ok_iff.mpr ⟨offText, offShown, offColour, offStored⟩, bind, Except.bind]
    rfl

/-! ## Configurations -/

/-- The entries of the palettes. -/
def paletteSection (entries : List (Value × Value)) : List Value :=
  match (entryOr entries "palettes" .null).unfolded with
  | .list es => es
  | _ => []

variable {entries : List (Value × Value)} {v : Value} {c : Config}

/-- A section of palettes that is accepted counts as nothing, or is a list whose entries are accepted. -/
theorem palettesOf_cases {own : List Palette} (read : palettesOf host v = .ok own) :
    (v.isTruthy = false ∧ own = []) ∨ ∃ es, v.unfolded = .list es ∧ es.mapM (paletteOf host) = .ok own := by
  unfold palettesOf at read
  split at read
  · rename_i falsy
    exact .inl ⟨by simpa using falsy, (Except.ok.inj read).symm⟩
  · split at read
    · rename_i es list
      exact .inr ⟨es, list, read⟩
    · cases read

/-- The palettes of a configuration are the built-in ones and those of its entries. -/
theorem exists_palettes_of_reads (reads : Reads host entries c) :
    ∃ own, List.Forall₂ (fun e p => paletteOf host e = .ok p) (paletteSection entries) own ∧
      c.palettes = Palette.builtin ++ own := by
  obtain ⟨own, read, palettes⟩ := reads.palettes
  refine ⟨own, ?_, palettes⟩
  unfold paletteSection
  rcases palettesOf_cases read with ⟨falsy, rfl⟩ | ⟨es, list, checked⟩
  · cases unfolded : (entryOr entries "palettes" .null).unfolded with
    | list es =>
      rw [Value.items_eq_nil_of_falsy falsy unfolded]
      exact .nil
    | _ => exact .nil
  · rw [list]
    exact mapM_eq_ok_iff.mp checked

/-- An accepted palette entry, as the only one of a configuration. -/
theorem ofValue_of_paletteOf {entry : Value} {p : Palette} (h : paletteOf host entry = .ok p) :
    ofValue host (.mapping [(.text "palettes", .list [entry])]) =
      .ok { standard with palettes := Palette.builtin ++ [p] } := by
  have own : palettesOf host (.list [entry]) = .ok [p] := by
    rw [palettesOf, Value.isTruthy_list]
    exact mapM_eq_ok_iff.mpr (.cons h .nil)
  have under : entryOr [(.text "palettes", .list [entry])] "palettes" .null = .list [entry] := rfl
  change ofEntries host _ = _
  unfold ofEntries
  rw [under, own]
  rfl

/-- A palette entry is accepted exactly if its colours are, and they are stored in upper case. The colours are six
hexadecimal digits or disguised, and exactly the disguised ones are not stored in the usual form. Every
configuration that is accepted has the built-in palettes and those of its entries, and a palette entry by itself
makes a configuration that is accepted exactly if it is accepted. -/
theorem colours_iff (host : Host) :
    (∀ entry p, paletteOf host entry = .ok p ↔
      ∃ fields, entry.unfolded = .mapping fields ∧ GivenBy host fields p) ∧
    (∀ fields key s, ColourUnder host fields key s →
      (IsHexColour s ↔ ¬ IsDisguised s) ∧ (IsStored (inUpperCase s) ↔ ¬ IsDisguised s)) ∧
    (∀ v c, ofValue host v = .ok c → ∃ entries own, v.unfolded = .mapping entries ∧
      c.palettes = Palette.builtin ++ own ∧
      List.Forall₂ (fun e p => paletteOf host e = .ok p) (paletteSection entries) own) ∧
    ∀ entry, (∃ c, ofValue host (.mapping [(.text "palettes", .list [entry])]) = .ok c) ↔
      ∃ p, paletteOf host entry = .ok p := by
  have palettes (v c) (accepted : ofValue host v = .ok c) : ∃ entries own,
      v.unfolded = .mapping entries ∧ c.palettes = Palette.builtin ++ own ∧
      List.Forall₂ (fun e p => paletteOf host e = .ok p) (paletteSection entries) own := by
    obtain ⟨entries, mapping, reads⟩ := reads_of_ofValue accepted
    obtain ⟨own, each, palettes⟩ := exists_palettes_of_reads reads
    exact ⟨entries, own, mapping, palettes, each⟩
  refine ⟨fun _ _ => paletteOf_eq_ok_iff, fun fields key s under => ⟨?_, ?_⟩, palettes, fun entry => ⟨?_, ?_⟩⟩
  · exact ⟨IsHexColour.not_isDisguised, under.2.resolve_right⟩
  · exact isStored_inUpperCase_iff under.2
  · rintro ⟨c, accepted⟩
    obtain ⟨entries, own, mapping, -, each⟩ := palettes _ _ accepted
    cases mapping
    cases each with
    | cons first _ => exact ⟨_, first⟩
  · rintro ⟨p, read⟩
    exact ⟨_, ofValue_of_paletteOf read⟩

/-- A configuration with a palette whose foreground is a sign and five digits. -/
def signedColour : Value :=
  .mapping [(.text "palettes", .list [.mapping
    [(.text "id", .text "x"), (.text "foreground", .text "#+12345"), (.text "background", .text "#000000")]])]

/-- A sign and five digits are accepted as a colour, and stored. -/
theorem signedColour_accepted :
    (∃ c, ofValue (.ofHome "/home") signedColour = .ok c ∧ ⟨"x", "x", "#+12345", "#000000"⟩ ∈ c.palettes) ∧
      ¬ IsHexColour "#+12345" ∧ ¬ IsStored "#+12345" := by
  have accepted : ofValue (.ofHome "/home") signedColour =
      .ok { standard with palettes := Palette.builtin ++ [⟨"x", "x", "#+12345", "#000000"⟩] } := by rfl
  refine ⟨⟨_, accepted, by simp⟩, ?_, ?_⟩
  · rintro ⟨ps, points, -, digits⟩
    have plus : .char '+' ∈ ps := (List.cons.inj points).2 ▸ List.mem_cons_self
    obtain ⟨c, same, digit⟩ := digits _ plus
    cases same
    exact absurd digit (by decide)
  · rintro ⟨ps, points, -, digits⟩
    have plus : .char '+' ∈ ps := (List.cons.inj points).2 ▸ List.mem_cons_self
    obtain ⟨c, same, digit⟩ := digits _ plus
    cases same
    exact absurd digit (by decide)

end Hexscope.Config
