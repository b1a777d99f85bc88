import Mathlib.Logic.Basic

/-! Programs that ask questions, and the rules of pre- and postconditions over their answers. -/

namespace Nightdrop

/-- A program that ends with a result, or asks a question and goes on with the reply. -/
inductive Ask (Q R A : Type) where
  | done (result : A)
  | ask (query : Q) (next : R → Ask Q R A)

namespace Ask

variable {Q R A B G : Type}

/-- Go on with the result of a program. -/
def bind : Ask Q R A → (A → Ask Q R B) → Ask Q R B
  | .done result, rest => rest result
  | .ask query next, rest => .ask query (fun reply => (next reply).bind rest)

instance : Monad (Ask Q R) where
  pure := .done
  bind := bind

@[simp] theorem pure_eq (result : A) : (pure result : Ask Q R A) = .done result := rfl

@[simp] theorem bind_done (result : A) (rest : A → Ask Q R B) :
    (Ask.done result >>= rest) = rest result := rfl

@[simp] theorem bind_ask (query : Q) (next : R → Ask Q R A) (rest : A → Ask Q R B) :
    (Ask.ask query next >>= rest) = .ask query (fun reply => next reply >>= rest) := rfl

/--
Whatever replies the answerer may give, the program ends in its postcondition.

The answerer keeps a state of its own, which a reply may change.
-/
def Meets (answers : Q → G → R → G → Prop) (post : G → A → Prop) : Ask Q R A → G → Prop
  | .done result, g => post g result
  | .ask query next, g => ∀ reply g', answers query g reply g' → Meets answers post (next reply) g'

/-- The runs of a program against the answerer: where it starts, its result, and where it ends. -/
inductive Runs (answers : Q → G → R → G → Prop) : Ask Q R A → G → A → G → Prop where
  | done (result : A) (g : G) : Runs answers (.done result) g result g
  | ask {query : Q} {next : R → Ask Q R A} {g mid last : G} {result : A} (reply : R)
      (answered : answers query g reply mid) (rest : Runs answers (next reply) mid result last) :
      Runs answers (.ask query next) g result last

variable {answers : Q → G → R → G → Prop} {post post' : G → A → Prop} {after : G → B → Prop}

@[simp] theorem meets_done (result : A) (g : G) :
    Meets answers post (.done result) g ↔ post g result := Iff.rfl

/-- A reply that the answerer may give keeps the program on its way to the postcondition. -/
theorem Meets.reply {query : Q} {next : R → Ask Q R A} {g g' : G} {reply : R}
    (meets : Meets answers post (.ask query next) g) (answered : answers query g reply g') :
    Meets answers post (next reply) g' :=
  meets reply g' answered

/-- A run of a program ends in the postcondition that the program meets. -/
theorem Meets.run {program : Ask Q R A} {g last : G} {result : A}
    (meets : Meets answers post program g) (run : Runs answers program g result last) :
    post last result := by
  induction run with
  | done result g => exact meets
  | ask reply answered rest ih => exact ih (meets.reply answered)

/-- A weaker postcondition is met as well. -/
theorem Meets.mono {program : Ask Q R A} {g : G} (meets : Meets answers post program g)
    (weaker : ∀ g result, post g result → post' g result) : Meets answers post' program g := by
  induction program generalizing g with
  | done result => exact weaker g result meets
  | ask query next ih => exact fun reply g' answered => ih reply (meets reply g' answered)

/-- Sequencing: what the first part establishes is what the rest starts from. -/
theorem Meets.bind {program : Ask Q R A} {rest : A → Ask Q R B} {g : G}
    (first : Meets answers post program g)
    (second : ∀ g result, post g result → Meets answers after (rest result) g) :
    Meets answers after (program >>= rest) g := by
  induction program generalizing g with
  | done result => exact second g result first
  | ask query next ih => exact fun reply g' answered => ih reply (first reply g' answered)

end Ask

end Nightdrop
