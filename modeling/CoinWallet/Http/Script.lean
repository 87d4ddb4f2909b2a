import CoinWallet.Http.Dialogue
import CoinWallet.Text.Case
import CoinWallet.Text.Part

set_option autoImplicit false

namespace CoinWallet.Http

structure Rule where
  parts : List String
  answers : List (Except NetworkError Response)
  used : Nat := 0

structure Script where
  rules : List Rule
  headers : List (String × String) := []
  log : List String := []

def Request.toText (headers : List (String × String)) (r : Request) : String :=
  let method := match r.method with
    | .get => "GET "
    | .post => "POST "
  let extensions := (headers.map fun (name, value) => (Text.lower name, value)).filter
    fun (name, _) => "x-".toList.isPrefixOf name.toList
  let lines := (extensions.mergeSort fun a b => decide (a.1 ≤ b.1)).map
    fun (name, value) => name ++ ": " ++ value
  "\n".intercalate (((method ++ r.url) :: lines) ++ (if r.body.isEmpty then [] else [r.body]))

def Rule.fits (rule : Rule) (text : String) : Bool :=
  rule.parts.all fun part => Text.occursIn part.toList text.toList

def Rule.next (rule : Rule) : Except NetworkError Response :=
  (rule.answers[rule.used]?.or rule.answers.getLast?).getD (.ok { status := 200, body := .ok "" })

-- the answer of the first rule that fits, and the rules after it
def answerBy (text : String) : List Rule → Except NetworkError Response × List Rule
  | [] => (.ok { status := 404, body := .ok "no rule" }, [])
  | rule :: rest =>
    if rule.fits text then (rule.next, { rule with used := rule.used + 1 } :: rest)
    else
      let (answer, rest) := answerBy text rest
      (answer, rule :: rest)

def Script.send (r : Request) : StateM Script (Except NetworkError Response) := fun script =>
  let text := r.toText script.headers
  let (answer, rules) := answerBy text script.rules
  (answer, { script with rules := rules, log := text :: script.log })

end CoinWallet.Http
