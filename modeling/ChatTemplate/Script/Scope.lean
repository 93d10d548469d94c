/-
# ChatTemplate.Script.Scope -- the names a script can use

A scope binds names to values.  Every dialect starts from a scope that holds its
constants; a namespace such as `Math` is no value of its own, its constants are
bound under their full names.
-/
import ChatTemplate.Script.Expr
import ChatTemplate.Table

namespace ChatTemplate.Script

set_option autoImplicit false

abbrev Scope := Table Value

/-- The constants that every script of a dialect can use. -/
def constants : Dialect → List (String × Value)
  | .script =>
      [ ("Math.PI", .float 3.141592653589793), ("Math.E", .float 2.718281828459045),
        ("Infinity", .float (1.0 / 0.0)), ("NaN", .float (0.0 / 0.0)) ]
  | .math =>
      [ ("pi", .float 3.141592653589793), ("e", .float 2.718281828459045),
        ("tau", .float 6.283185307179586), ("phi", .float 1.618033988749895),
        ("Infinity", .float (1.0 / 0.0)) ]

def Scope.ofDialect (dialect : Dialect) : Scope :=
  Table.empty.setAll (constants dialect)

end ChatTemplate.Script
