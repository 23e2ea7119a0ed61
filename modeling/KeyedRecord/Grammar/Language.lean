/-
**The grammar as a whole.**

The rules call each other through a table. `Rules.ofDepth` ties them: the table of depth `n + 1`
holds the rules over the table of depth `n`. Each call goes with a token that has been read or
leads, in a bounded number of steps, to one that reads a token; so a depth proportional to the
number of tokens never runs out (`Rules.forPhrase`).
-/

import KeyedRecord.Grammar.Statement

namespace KeyedRecord.Grammar

/-- The rules over a table of the rules. -/
def Rules.extend (inner : Rules) : Rules where
  type := Grammar.type inner
  path := Grammar.path inner
  expr := Grammar.expr inner
  operand := Grammar.operand inner
  operators := Grammar.operators inner
  statementExpr := Grammar.statementExpr inner
  pattern := Grammar.pattern inner
  statements := Grammar.statements inner
  item := Grammar.item inner
  importTree := Grammar.importTree inner

/-- The rules for phrases of a nesting depth. -/
def Rules.ofDepth : Nat → Rules
  | 0 => Rules.exhausted
  | depth + 1 => (Rules.ofDepth depth).extend

/-- The rules for a phrase. -/
def Rules.forPhrase (phrase : Phrase) : Rules :=
  Rules.ofDepth (8 * phrase.size + 16)

end KeyedRecord.Grammar
