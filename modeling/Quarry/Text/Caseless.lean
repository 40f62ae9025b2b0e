/-!
Names that are the same whatever the case of their ASCII letters.
-/

namespace Quarry.Text

/-- Whether two names differ at most in the case of ASCII letters. -/
def sameName (a b : String) : Bool := a.toLower == b.toLower

theorem sameName_refl (a : String) : sameName a a := by simp [sameName]

end Quarry.Text
