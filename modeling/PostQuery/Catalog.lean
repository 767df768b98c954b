import PostQuery.Value.Items

/-!
# Message catalogs

A catalog replaces message templates by others. What it does not list stays as it is.
-/

namespace PostQuery

structure Catalog where
  entries : Dict := []

namespace Catalog

/-- The catalog that any value lists, read as a dictionary. -/
def ofValue (v : Value) : Except Misuse Catalog := v.toDict.map Catalog.mk

/-- The template listed for a message, or the message. -/
def lookup (c : Catalog) (message : String) : Value :=
  (c.entries.get? (.text message)).getD (.text message)

/-- The text of the template listed for a message, or the message. -/
def reword (c : Catalog) (message : String) : String := (c.lookup message).display

end Catalog

end PostQuery
