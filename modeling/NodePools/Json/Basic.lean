/-!
# JSON documents

A document is nothing, a truth value, a decimal number, a text, a list or a
table.  The keys of a table are in written order.
-/

namespace NodePools

/-- A JSON document.  A number is `mantissa * 10 ^ exponent`. -/
inductive Json where
  | null
  | bool (b : Bool)
  | number (mantissa exponent : Int)
  | text (s : String)
  | list (items : List Json)
  | table (fields : List (String × Json))

end NodePools
