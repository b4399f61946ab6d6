import HeaderRules.Proofs.Text.Case
import HeaderRules.Regex.CharSet
/-!
# Sets that are blind to case

A set of ASCII ranges and of single ASCII characters without case holds a character of the text if
the comparison takes it for one that the set lists.
-/

namespace HeaderRules.Regex

open HeaderRules.Text

theorem rangeHolds_unicode {lo hi code : Nat} (h : hi ≤ lastFoldedCode) :
    rangeHolds .unicode lo hi (lowerCode code) = true ↔
      ∃ d, lo ≤ d ∧ d ≤ hi ∧ sameLetter d code = true := by
  have hhigh : decide (lastFoldedCode < hi) = false := by
    rw [decide_eq_false_iff_not]
    omega
  simp only [rangeHolds, Folding.class?, hhigh, Bool.false_and, Bool.or_false, List.any_eq_true,
    Bool.and_eq_true, decide_eq_true_eq, sameLetter_iff]
  constructor
  · rintro ⟨d, hmem, ⟨hlo, hhi⟩, -⟩
    exact ⟨d, hlo, hhi, hmem⟩
  · rintro ⟨d, hlo, hhi, hmem⟩
    exact ⟨d, hmem, ⟨hlo, hhi⟩, by omega⟩

namespace SetItem

def lists : SetItem → Char → Bool
  | .one code, c => c.toNat == code
  | .range lo hi, c => lo ≤ c.toNat && c.toNat ≤ hi
  | .kind k negated, c => k.holds false c.toNat != negated

/-- Whether an item is an ASCII range or an ASCII character without case. -/
def isSimple : SetItem → Bool
  | .one code => isCaseless code
  | .range _ hi => hi < 0x80
  | .kind .. => false

theorem toNat_ofNat {code : Nat} (h : code < 0x80) : (Char.ofNat code).toNat = code := by
  have hvalid : code.isValidChar := .inl (by omega)
  rw [Char.ofNat, dif_pos hvalid]
  rfl

theorem holds_iff {item : SetItem} (h : item.isSimple = true) (ascii : Bool) (code : Nat) :
    item.holds .unicode ascii (lowerCode code) = true ↔
      ∃ d : Char, item.lists d = true ∧ sameLetter d.toNat code = true := by
  cases item with
  | one wanted =>
    have hlow : wanted < 0x80 := (isCaseless_iff.1 h).1
    have hsame : lowerCode wanted = wanted := (lowerCode_eq_of_isCaseless h).2 rfl
    have hfold : ¬(Folding.unicode ≠ .exact ∧ lastFoldedCode < Folding.unicode.fold wanted) := by
      rw [Folding.fold, hsame, lastFoldedCode]
      omega
    rw [holds, if_neg hfold, Folding.agrees, sameLetter_of_isCaseless h,
      lowerCode_eq_of_isCaseless h]
    constructor
    · rintro rfl
      refine ⟨Char.ofNat code, ?_, ?_⟩
      · rw [lists, toNat_ofNat hlow, beq_self_eq_true]
      · rw [toNat_ofNat hlow, sameLetter_of_isCaseless h]
    · rintro ⟨d, hd, hsame⟩
      rw [lists, beq_iff_eq] at hd
      rw [hd] at hsame
      exact (sameLetter_of_isCaseless h).1 hsame
  | range lo hi =>
    have hhi : hi < 0x80 := by simpa [isSimple] using h
    rw [holds, rangeHolds_unicode (by rw [lastFoldedCode]; omega)]
    simp only [lists, Bool.and_eq_true, decide_eq_true_eq]
    constructor
    · rintro ⟨d, hlo, hd, hsame⟩
      have hd' : (Char.ofNat d).toNat = d := toNat_ofNat (by omega)
      exact ⟨Char.ofNat d, by omega, by rwa [hd']⟩
    · rintro ⟨d, ⟨hlo, hd⟩, hsame⟩
      exact ⟨d.toNat, hlo, hd, hsame⟩
  | kind k negated => cases h

end SetItem

/-- A set is as good as the characters that it lists. -/
theorem setHolds_iff {flags : Flags} (hflags : flags.folding = .unicode) {items : List SetItem}
    (h : items.all (·.isSimple) = true) (negated : Bool) (c : Char) :
    setHolds flags negated items c = true ↔
      ((∃ d : Char, items.any (·.lists d) = true ∧ sameLetter d.toNat c.toNat = true) ↔
        negated = false) := by
  have hany : items.any (SetItem.holds .unicode flags.ascii (lowerCode c.toNat)) = true ↔
      ∃ d : Char, items.any (·.lists d) = true ∧ sameLetter d.toNat c.toNat = true := by
    rw [List.any_eq_true]
    constructor
    · rintro ⟨item, hitem, hholds⟩
      have hsimple := List.all_eq_true.1 h item hitem
      obtain ⟨d, hd, hsame⟩ := (SetItem.holds_iff hsimple _ _).1 hholds
      exact ⟨d, List.any_eq_true.2 ⟨item, hitem, hd⟩, hsame⟩
    · rintro ⟨d, hd, hsame⟩
      obtain ⟨item, hitem, hd⟩ := List.any_eq_true.1 hd
      have hsimple := List.all_eq_true.1 h item hitem
      exact ⟨item, hitem, (SetItem.holds_iff hsimple _ _).2 ⟨d, hd, hsame⟩⟩
  rw [← hany, setHolds, hflags, Folding.fold]
  cases negated <;> simp

end HeaderRules.Regex
