import Lanewise.Formula.Standard
import Lanewise.Target

/-!
# Tables

Everything that generation depends on: the widths of the matrix, the catalog of functions and the
table of their formulas.
-/

namespace Lanewise

/-- What files are generated from. -/
structure Tables where
  /-- The widths of vector targets, in the order of the matrix. -/
  widths : List Int
  catalog : Catalog
  formulas : Formula.Table

/-- The tables that are used unless others are given. -/
def Tables.standard : Tables where
  widths := [2, 4, 8, 16, 32, 64]
  catalog := .standard
  formulas := .standard

end Lanewise
