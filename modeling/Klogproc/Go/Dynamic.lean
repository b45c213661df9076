import Klogproc.Go.Strings
import Klogproc.Go.Strconv
import Mathlib.Data.List.Sort

/-!
# `interface{}` values, `encoding/json` and `%v`

The KonText records keep the request arguments of a log line as a `map[string]interface{}`
filled by `json.Unmarshal`, and read them back with type switches and `fmt.Sprintf("%v", ...)`.
This module gives those values and the operations on them.

* `Any` is a value of type `interface{}` of the kinds the records meet: `nil`, `bool`, `int`,
  `float64` (by its IEEE 754 bits), `string`, `[]interface{}` and `map[string]interface{}`.  A
  map is the list of its entries, one per key; `mapIndex` is `m[key]`, `nil` for a key that is
  not there, and `mapHas` is the `ok` of `_, ok := m[key]`.
* `formatV` is `fmt.Sprintf("%v", x)`: maps are written with their keys sorted.  The digits of
  a `float64` are `strconv.FormatFloat(f, 'g', -1, 64)`, which is a parameter here.
-/

namespace Klogproc.Go

/-- A value of type `interface{}`: its dynamic type and value. -/
inductive Any where
  | nil
  | bool (b : Bool)
  | int (n : Int)
  | float64 (bits : UInt64)
  | string (s : List UInt8)
  | slice (elems : List Any)
  | map (entries : List (List UInt8 × Any))

/-- The value of `key` in a map, if the key is there. -/
def mapLookup : List (List UInt8 × Any) → List UInt8 → Option Any
  | [], _ => none
  | (k, v) :: m, key => if k = key then some v else mapLookup m key

/-- `m[key]` of a `map[string]interface{}`: the value, or `nil` for a missing key. -/
def mapIndex (m : List (List UInt8 × Any)) (key : List UInt8) : Any := (mapLookup m key).getD .nil

/-- The `ok` of `_, ok := m[key]`. -/
def mapHas (m : List (List UInt8 × Any)) (key : List UInt8) : Bool := (mapLookup m key).isSome

/-! ## `%v` -/

section Format

variable (formatFloat : UInt64 → List UInt8)

mutual

/-- `fmt.Sprintf("%v", x)`, with `formatFloat` for the digits of a `float64`. -/
def formatV : Any → List UInt8
  | .nil => ascii "<nil>"
  | .bool b => if b then ascii "true" else ascii "false"
  | .int n => itoa n
  | .float64 bits => formatFloat bits
  | .string s => s
  | .slice elems => 91 :: join (formatList elems) space ++ [93]
  | .map entries =>
    ascii "map[" ++
      join (((formatEntries entries).insertionSort fun a b => a.1 ≤ b.1).map
        fun e => e.1 ++ 58 :: e.2) space ++ [93]

/-- The elements of a slice under `%v`. -/
def formatList : List Any → List (List UInt8)
  | [] => []
  | v :: vs => formatV v :: formatList vs

/-- The entries of a map under `%v`, as pairs of a key and its value's text. -/
def formatEntries : List (List UInt8 × Any) → List (List UInt8 × List UInt8)
  | [] => []
  | (k, v) :: rest => (k, formatV v) :: formatEntries rest

end

end Format

end Klogproc.Go
