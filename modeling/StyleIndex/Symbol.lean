/-
Style symbols: the names that style sheets define and documents use. There are two kinds, class names (`.name`) and
mixins (`@define-mixin name`), and both share one identifier grammar.
-/
namespace StyleIndex

/-- the two families of symbols -/
inductive Kind where
  | className
  | mixin
deriving DecidableEq, Repr

namespace Kind

/-- the text shown beside a completion of this kind -/
def detail : Kind → String
  | className => "CSS class"
  | mixin => "PostCSS mixin"

/-- the icon of a completion of this kind, as the editor protocol numbers them -/
def icon : Kind → Nat
  | className => 7
  | mixin => 3

/-- the plural name of the kind -/
def label : Kind → String
  | className => "class names"
  | mixin => "mixins"

end Kind

/-- the characters a symbol is made of: ASCII letters, digits, `_` and `-` -/
def isSymbolChar (c : Char) : Bool :=
  c.isAlphanum || c = '_' || c = '-'

/-- Symbol characters are ASCII. -/
theorem toNat_lt_of_isSymbolChar {c : Char} (h : isSymbolChar c = true) : c.toNat < 0x80 := by
  have hclass : c.isAlphanum = true ∨ c = '_' ∨ c = '-' := by simpa [isSymbolChar, or_assoc] using h
  rcases hclass with hclass | rfl | rfl
  · have hcodes : (decide (65 ≤ c.val ∧ c.val ≤ 90) || (decide (97 ≤ c.val) && decide (c.val ≤ 122)) ||
        (decide (48 ≤ c.val) && decide (c.val ≤ 57))) = true := hclass
    simp only [Bool.or_eq_true, Bool.and_eq_true, decide_eq_true_eq, UInt32.le_iff_toNat_le] at hcodes
    change ((65 ≤ c.toNat ∧ c.toNat ≤ 90) ∨ 97 ≤ c.toNat ∧ c.toNat ≤ 122) ∨ 48 ≤ c.toNat ∧ c.toNat ≤ 57 at hcodes
    omega
  · decide
  · decide

/-- an identifier starts with an ASCII letter and goes on with symbol characters -/
def isIdentifier : List Char → Bool
  | [] => false
  | c :: cs => c.isAlpha && cs.all isSymbolChar

end StyleIndex
