import FieldTypes.Catalog.Basic
import FieldTypes.Text.Visible

set_option autoImplicit false

namespace FieldTypes.Catalog

/-- The names of a catalog, on one line. -/
def summary (catalog : Catalog) : String :=
  "TemplateCatalog \x7b templates: [" ++ ", ".intercalate (catalog.names.map Text.visible) ++ "] \x7d"

end FieldTypes.Catalog
