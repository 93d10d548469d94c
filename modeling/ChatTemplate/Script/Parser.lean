/-
# ChatTemplate.Script.Parser -- from tokens to trees

The grammar, from the loosest to the tightest binding: comma, assignment and
callbacks, the conditional, ten levels of binary operators (`BinaryOp.level?`),
unary operators, powers, and what follows a primary expression.  Binary levels
group to the left and powers to the right.

Two places look ahead: a name before an assignment operator begins an
assignment, and a name or a list of names in parentheses before `=>` begins a
callback (`callbackHead?`).

Every reader gives its tree together with the tokens after it, and takes a bound
on the depth of its calls first.  A token is consumed at the latest after a walk
down all levels, so the bound that `parse` and `parseProgram` compute from the
number of tokens is never reached.
-/
import ChatTemplate.Script.Error
import ChatTemplate.Script.Expr

namespace ChatTemplate.Script

set_option autoImplicit false

/-- What the reader of a part of a script gives: its tree and the tokens after
it. -/
abbrev Reading (α : Type) := List Token → Except SyntaxError (α × List Token)

/-- The token at hand; past the last one the source has ended. -/
def peek (tokens : List Token) : Token :=
  tokens.headD .eof

def expect (what : Expected) (symbol : Symbol) (tokens : List Token) :
    Except SyntaxError (List Token) :=
  match tokens with
  | .sym s :: rest => if s = symbol then .ok rest else .error (.expected what (.sym s))
  | _ => .error (.expected what (peek tokens))

/-! ## Operators -/

/-- The binary operators by level, `0` binding loosest; powers are apart. -/
def BinaryOp.level? : BinaryOp → Option Nat
  | .or => some 0
  | .and => some 1
  | .bitOr => some 2
  | .bitXor => some 3
  | .bitAnd => some 4
  | .eq | .ne | .strictEq | .strictNe => some 5
  | .lt | .le | .gt | .ge => some 6
  | .shiftLeft | .shiftRight => some 7
  | .add | .sub => some 8
  | .mul | .div | .rem => some 9
  | .pow => none

def binaryOp? (dialect : Dialect) : Symbol → Option BinaryOp
  | .or => some .or
  | .and => some .and
  | .pipe => some .bitOr
  | .caret => if dialect = .script then some .bitXor else some .pow
  | .ampersand => some .bitAnd
  | .eq => some .eq
  | .ne => some .ne
  | .strictEq => some .strictEq
  | .strictNe => some .strictNe
  | .lt => some .lt
  | .le => some .le
  | .gt => some .gt
  | .ge => some .ge
  | .shiftLeft => some .shiftLeft
  | .shiftRight => some .shiftRight
  | .plus => some .add
  | .minus => some .sub
  | .star => some .mul
  | .slash => some .div
  | .percent => some .rem
  | .starStar => some .pow
  | _ => none

/-- The operator of one level that the tokens begin with. -/
def operatorAt? (dialect : Dialect) (level : Nat) : List Token → Option (BinaryOp × List Token)
  | .sym s :: rest =>
      match binaryOp? dialect s with
      | some op => if op.level? = some level then some (op, rest) else none
      | none => none
  | _ => none

/-- The tokens after an operator that raises to a power. -/
def powerAt? (dialect : Dialect) : List Token → Option (List Token)
  | .sym s :: rest => if binaryOp? dialect s = some .pow then some rest else none
  | _ => none

def unaryOp? : Symbol → Option UnaryOp
  | .minus => some .neg
  | .plus => some .plus
  | .bang => some .not
  | .tilde => some .bitNot
  | _ => none

def assignOp? : Symbol → Option AssignOp
  | .assign => some .set
  | .plusAssign => some .add
  | .minusAssign => some .sub
  | .starAssign => some .mul
  | .slashAssign => some .div
  | .percentAssign => some .rem
  | _ => none

/-! ## Looking ahead -/

/-- A name and an assignment operator. -/
def assignmentHead? : List Token → Option (String × AssignOp × List Token)
  | .name x :: .sym s :: rest => (assignOp? s).map fun op => (x, op, rest)
  | _ => none

/-- Names with commas between or after them, up to the closing parenthesis. -/
def paramNames? : List Token → Option (List String × List Token)
  | .sym .rparen :: rest => some ([], rest)
  | .name x :: .sym .rparen :: rest => some ([x], rest)
  | .name x :: .sym .comma :: rest =>
      (paramNames? rest).map fun params => (x :: params.1, params.2)
  | _ => none

/-- The parameters of a callback and the tokens after its arrow. -/
def callbackHead? (dialect : Dialect) (tokens : List Token) : Option (List String × List Token) :=
  if dialect = .math then none
  else
    match tokens with
    | .name x :: .sym .arrow :: rest => some ([x], rest)
    | .sym .lparen :: rest =>
        match paramNames? rest with
        | some (params, .sym .arrow :: rest) => some (params, rest)
        | _ => none
    | _ => none

/-! ## Expressions -/

/-- A word that is a value rather than a name. -/
def wordValue? (word : String) : Option Value :=
  if word = "true" then some (.bool true)
  else if word = "false" then some (.bool false)
  else if word = "null" ∨ word = "undefined" then some .null
  else none

mutual

/-- An expression, or several with commas between them. -/
def parseExpr (dialect : Dialect) : Nat → Reading Expr
  | 0, _ => .error .tooDeep
  | n + 1, tokens => do
      let (first, tokens) ← parseAssign dialect n tokens
      let (others, tokens) ← parseMore dialect n tokens
      return (if others.isEmpty then first else .sequence (first :: others), tokens)

/-- The expressions that follow, each after a comma. -/
def parseMore (dialect : Dialect) : Nat → Reading (List Expr)
  | 0, _ => .error .tooDeep
  | n + 1, tokens =>
      match tokens with
      | .sym .comma :: tokens => do
          let (item, tokens) ← parseAssign dialect n tokens
          let (items, tokens) ← parseMore dialect n tokens
          return (item :: items, tokens)
      | _ => return ([], tokens)

/-- A callback, an assignment or a conditional. -/
def parseAssign (dialect : Dialect) : Nat → Reading Expr
  | 0, _ => .error .tooDeep
  | n + 1, tokens =>
      match callbackHead? dialect tokens with
      | some (params, tokens) => do
          let (body, tokens) ← parseAssign dialect n tokens
          return (.lambda params body, tokens)
      | none =>
          match assignmentHead? tokens with
          | some (name, op, tokens) => do
              let (value, tokens) ← parseAssign dialect n tokens
              return (.assign name op value, tokens)
          | none => parseConditional dialect n tokens

def parseConditional (dialect : Dialect) : Nat → Reading Expr
  | 0, _ => .error .tooDeep
  | n + 1, tokens => do
      let (condition, tokens) ← parseBinary dialect n 0 tokens
      match tokens with
      | .sym .question :: tokens => do
          let (yes, tokens) ← parseAssign dialect n tokens
          let tokens ← expect .colon .colon tokens
          let (no, tokens) ← parseAssign dialect n tokens
          return (.conditional condition yes no, tokens)
      | _ => return (condition, tokens)

/-- An expression whose operators bind at least as tightly as `level`. -/
def parseBinary (dialect : Dialect) : Nat → Nat → Reading Expr
  | 0, _, _ => .error .tooDeep
  | n + 1, level, tokens =>
      if level < 10 then do
        let (left, tokens) ← parseBinary dialect n (level + 1) tokens
        parseOperands dialect n level left tokens
      else parseUnary dialect n tokens

/-- The operands of one level that follow `left`. -/
def parseOperands (dialect : Dialect) : Nat → Nat → Expr → Reading Expr
  | 0, _, _, _ => .error .tooDeep
  | n + 1, level, left, tokens =>
      match operatorAt? dialect level tokens with
      | some (op, tokens) => do
          let (right, tokens) ← parseBinary dialect n (level + 1) tokens
          parseOperands dialect n level (.binary op left right) tokens
      | none => return (left, tokens)

def parseUnary (dialect : Dialect) : Nat → Reading Expr
  | 0, _ => .error .tooDeep
  | n + 1, tokens =>
      match tokens with
      | .sym s :: rest =>
          match unaryOp? s with
          | some op => do
              let (operand, tokens) ← parseUnary dialect n rest
              return (.unary op operand, tokens)
          | none => parsePower dialect n tokens
      | _ => parsePower dialect n tokens

/-- A base with an exponent, which may have signs of its own. -/
def parsePower (dialect : Dialect) : Nat → Reading Expr
  | 0, _ => .error .tooDeep
  | n + 1, tokens => do
      let (base, tokens) ← parsePrimary dialect n tokens
      let (base, tokens) ← parsePostfix dialect n base tokens
      match powerAt? dialect tokens with
      | some tokens => do
          let (exponent, tokens) ← parseUnary dialect n tokens
          return (.binary .pow base exponent, tokens)
      | none => return (base, tokens)

/-- The members, elements and method calls that follow `target`. -/
def parsePostfix (dialect : Dialect) : Nat → Expr → Reading Expr
  | 0, _, _ => .error .tooDeep
  | n + 1, target, tokens =>
      match tokens with
      | .sym .dot :: .name key :: .sym .lparen :: tokens => do
          let (args, tokens) ← parseArgs dialect n key tokens
          parsePostfix dialect n (.method target key args) tokens
      | .sym .dot :: .name key :: tokens => parsePostfix dialect n (.member target key) tokens
      | .sym .dot :: tokens => .error (.expected .propertyName (peek tokens))
      | .sym .lbracket :: tokens => do
          let (key, tokens) ← parseExpr dialect n tokens
          let tokens ← expect .closeIndex .rbracket tokens
          parsePostfix dialect n (.index target key) tokens
      | _ => return (target, tokens)

/-- The arguments after an opening parenthesis. -/
def parseArgs (dialect : Dialect) : Nat → String → Reading (List Expr)
  | 0, _, _ => .error .tooDeep
  | n + 1, function, tokens =>
      match tokens with
      | .sym .rparen :: tokens => return ([], tokens)
      | _ => do
          let (first, tokens) ← parseAssign dialect n tokens
          let (others, tokens) ← parseMore dialect n tokens
          match tokens with
          | .sym .rparen :: tokens => return (first :: others, tokens)
          | _ => .error (.unclosedArguments function)

/-- The items after an opening bracket; a comma may follow the last one. -/
def parseItems (dialect : Dialect) : Nat → Reading (List Expr)
  | 0, _ => .error .tooDeep
  | n + 1, tokens =>
      match tokens with
      | .sym .rbracket :: tokens => return ([], tokens)
      | _ => do
          let (item, tokens) ← parseAssign dialect n tokens
          match tokens with
          | .sym .comma :: tokens => do
              let (items, tokens) ← parseItems dialect n tokens
              return (item :: items, tokens)
          | _ => do
              let tokens ← expect .closeIndex .rbracket tokens
              return ([item], tokens)

def parsePrimary (dialect : Dialect) : Nat → Reading Expr
  | 0, _ => .error .tooDeep
  | n + 1, tokens =>
      match tokens with
      | .int k :: tokens => return (.literal (.int k), tokens)
      | .float x :: tokens => return (.literal (.float x), tokens)
      | .str s :: tokens => return (.literal (.str s), tokens)
      | .name word :: tokens =>
          match wordValue? word with
          | some value => return (.literal value, tokens)
          | none =>
              match tokens with
              | .sym .lparen :: tokens => do
                  let (args, tokens) ← parseArgs dialect n word tokens
                  return (.call word args, tokens)
              | _ => return (.var word, tokens)
      | .sym .lparen :: tokens => do
          let (inner, tokens) ← parseExpr dialect n tokens
          let tokens ← expect .closeParen .rparen tokens
          return (inner, tokens)
      | .sym .lbracket :: tokens => do
          let (items, tokens) ← parseItems dialect n tokens
          return (.list items, tokens)
      | .unknown c :: _ => .error (.strayCharacter c)
      | .eof :: _ => .error .endOfInput
      | token :: _ => .error (.strayToken token)
      | [] => .error .endOfInput

end

/-! ## Primary expressions by their first token -/

section

variable (dialect : Dialect) (n : Nat) (tokens : List Token)

theorem parsePrimary_name (word : String) :
    parsePrimary dialect (n + 1) (.name word :: tokens) =
      match wordValue? word with
      | some value => return (.literal value, tokens)
      | none =>
          match tokens with
          | .sym .lparen :: tokens => do
              let (args, tokens) ← parseArgs dialect n word tokens
              return (.call word args, tokens)
          | _ => return (.var word, tokens) := rfl

theorem parsePrimary_paren :
    parsePrimary dialect (n + 1) (.sym .lparen :: tokens) = (do
      let (inner, tokens) ← parseExpr dialect n tokens
      let tokens ← expect .closeParen .rparen tokens
      return (inner, tokens)) := rfl

theorem parsePrimary_list :
    parsePrimary dialect (n + 1) (.sym .lbracket :: tokens) = (do
      let (items, tokens) ← parseItems dialect n tokens
      return (.list items, tokens)) := rfl

end

/-! ## Whole sources -/

/-- More calls than reading this many tokens can nest. -/
def parseBound (tokens : List Token) : Nat :=
  32 * (tokens.length + 1)

/-- The expression that a sequence of tokens is. -/
def parse (dialect : Dialect) (tokens : List Token) : Except SyntaxError Expr := do
  let (expr, rest) ← parseExpr dialect (parseBound tokens) tokens
  match peek rest with
  | .eof => return expr
  | found => .error (.leftover found)

/-! ## Statements -/

def isDeclaration (word : String) : Bool :=
  word == "let" || word == "const" || word == "var"

/-- A semicolon ends a statement, and so does what ends its block. -/
def endStatement (stmt : Stmt) (tokens : List Token) : Except SyntaxError (Stmt × List Token) :=
  match tokens with
  | .sym .semicolon :: rest => .ok (stmt, rest)
  | _ =>
      match peek tokens with
      | .sym .rbrace => .ok (stmt, tokens)
      | .eof => .ok (stmt, tokens)
      | found => .error (.expected .semicolon found)

/-- A statement that is no branch, without what ends it. -/
def parseSimple (tokens : List Token) : Except SyntaxError (Stmt × List Token) :=
  match tokens with
  | .name word :: rest =>
      if word = "return" then
        match peek rest with
        | .sym .semicolon => .ok (.ret none, rest)
        | .sym .rbrace => .ok (.ret none, rest)
        | .eof => .ok (.ret none, rest)
        | _ => do
            let (value, rest) ← parseExpr .script (parseBound rest) rest
            return (.ret (some value), rest)
      else if isDeclaration word then
        match rest with
        | .name x :: .sym .assign :: rest => do
            let (value, rest) ← parseAssign .script (parseBound rest) rest
            return (.declare x (some value), rest)
        | .name x :: rest => .ok (.declare x none, rest)
        | _ => .error (.expected .declaredName (peek rest))
      else expression tokens
  | _ => expression tokens
where
  expression (tokens : List Token) : Except SyntaxError (Stmt × List Token) := do
    let (e, rest) ← parseExpr .script (parseBound tokens) tokens
    return (.expr e, rest)

mutual

def parseStmt : Nat → Reading Stmt
  | 0, _ => .error .tooDeep
  | n + 1, tokens =>
      match tokens with
      | .name "if" :: rest => do
          let rest ← expect .openCondition .lparen rest
          let (condition, rest) ← parseExpr .script (parseBound rest) rest
          let rest ← expect .closeCondition .rparen rest
          let (yes, rest) ← parseBody n rest
          match rest with
          | .name "else" :: rest => do
              let (no, rest) ← parseBody n rest
              return (.branch condition yes no, rest)
          | _ => return (.branch condition yes [], rest)
      | _ => do
          let (stmt, rest) ← parseSimple tokens
          endStatement stmt rest

/-- A block in braces or a single statement. -/
def parseBody : Nat → Reading (List Stmt)
  | 0, _ => .error .tooDeep
  | n + 1, tokens =>
      match tokens with
      | .sym .lbrace :: rest => parseBlock n rest
      | _ => do
          let (stmt, rest) ← parseStmt n tokens
          return ([stmt], rest)

/-- The statements up to the closing brace. -/
def parseBlock : Nat → Reading (List Stmt)
  | 0, _ => .error .tooDeep
  | n + 1, tokens =>
      match tokens with
      | .sym .rbrace :: rest => return ([], rest)
      | .sym .semicolon :: rest => parseBlock n rest
      | _ =>
          if peek tokens = .eof then .error .unclosedBlock
          else do
            let (stmt, rest) ← parseStmt n tokens
            let (stmts, rest) ← parseBlock n rest
            return (stmt :: stmts, rest)

end

/-- The statements up to the end of the source. -/
def parseStmts : Nat → List Token → Except SyntaxError (List Stmt)
  | 0, _ => .error .tooDeep
  | n + 1, tokens =>
      match tokens with
      | .sym .semicolon :: rest => parseStmts n rest
      | _ =>
          if peek tokens = .eof then return []
          else do
            let (stmt, rest) ← parseStmt n tokens
            return stmt :: (← parseStmts n rest)

/-- The script that a sequence of tokens is. -/
def parseProgram (tokens : List Token) : Except SyntaxError (List Stmt) :=
  parseStmts (parseBound tokens) tokens

end ChatTemplate.Script
