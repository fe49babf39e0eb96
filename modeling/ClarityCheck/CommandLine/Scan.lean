import ClarityCheck.CommandLine.Grammar

/-!
# Reading command lines

The words are looked at one after the other. An option that still lacks its value takes the next
plain word; what has been given is read when the next thing begins, so that an error in it can be
kept back by a worse one.
-/

namespace ClarityCheck.CommandLine

variable {α ω : Type}

/-- An argument that has been given and not read yet. -/
inductive Pending (α ω : Type) where
  | option (o : Valued α) (value : Option Bytes)
  | operand (o : Operand ω) (value : Bytes)

/-- Why reading stops before the end. -/
inductive Stop where
  /-- A switch asks for information; its full name asks for more of it. -/
  | switch (s : Switch) (inFull : Bool)
  | refused (r : Refusal)
  deriving DecidableEq, Repr

/-- Where reading stands. -/
structure Progress (α ω : Type) where
  pending : Option (Pending α ω) := none
  /-- An option lacks its value, which may follow. -/
  awaiting : Bool := false
  /-- Only operands may follow. -/
  operandsOnly : Bool := false
  /-- There has been an operand. -/
  hasOperand : Bool := false
  /-- What has been given, as usage lines show it. -/
  given : List String := []
  /-- What the options stand for, in order. -/
  values : List α := []
  /-- What the operand stands for. -/
  operand : Option ω := none

namespace Progress

/-- The refusal of a value. -/
def valueRefusal (g : Grammar α ω) (shownArgument : String) (possible : List String)
    (value : Bytes) : ValueFault → Refusal
  | .empty => { fault := .missingValue shownArgument possible }
  | .notPossible =>
    if value = [] then { fault := .missingValue shownArgument possible }
    else
      { fault := .notPossible (shown value) shownArgument possible,
        tips :=
          ((Text.suggestions (shown value) possible).getLast?.map (Tip.similar "value")).toList }
  | .unreadable reason => { fault := .unreadable (shown value) shownArgument reason }
  | .notText => { fault := .notText, usage := some (g.usage []) }

/-- Reads an operand that has been given. -/
def takeOperand (g : Grammar α ω) (p : Progress α ω) (o : Operand ω) (value : Bytes) :
    Progress α ω × Option Refusal :=
  let p := { p with given := p.given ++ [o.shown] }
  match o.read value with
  | .ok a => ({ p with operand := some a }, none)
  | .error e => (p, some (valueRefusal g o.shown [] value e))

/-- Reads an option that has been given. -/
def takeOption (g : Grammar α ω) (p : Progress α ω) (o : Valued α) (value : Option Bytes) :
    Progress α ω × Option Refusal :=
  match value with
  | none => (p, some { fault := .missingValue o.shown o.possible })
  | some value =>
    if o.shown ∈ p.given then
      ({ p with given := p.given.filter (· ≠ o.shown) },
        some { fault := .repeated o.shown, usage := some (g.usage []) })
    else
      let p := { p with given := p.given ++ [o.shown] }
      match o.read value with
      | .ok a => ({ p with values := p.values ++ [a] }, none)
      | .error e => (p, some (valueRefusal g o.shown o.possible value e))

/-- Reads what is pending. -/
def settle (g : Grammar α ω) (p : Progress α ω) : Progress α ω × Option Refusal :=
  let p' := { p with pending := none, awaiting := false }
  match p.pending with
  | none => (p', none)
  | some (.option o value) => p'.takeOption g o value
  | some (.operand o value) => p'.takeOperand g o value

/-- Reads what is pending; an error ends everything. -/
def settled (g : Grammar α ω) (p : Progress α ω) : Except Stop (Progress α ω) :=
  match p.settle g with
  | (p, none) => .ok p
  | (_, some r) => .error (.refused r)

/-- An option, perhaps with its value. -/
def option (g : Grammar α ω) (p : Progress α ω) (o : Valued α) (value : Option Bytes) :
    Except Stop (Progress α ω) :=
  match p.settled g with
  | .error e => .error e
  | .ok p =>
    match value with
    | none => .ok { p with pending := some (.option o none), awaiting := true }
    | some _ =>
      match p.takeOption g o value with
      | (p, none) => .ok p
      | (_, some r) => .error (.refused r)

/-- A switch. -/
def switch (g : Grammar α ω) (p : Progress α ω) (s : Switch) (inFull : Bool) : Stop :=
  match p.settled g with
  | .error e => e
  | .ok _ => .switch s inFull

/-- A switch with a value. -/
def switchWithValue (g : Grammar α ω) (p : Progress α ω) (s : Switch) (value : Bytes) : Stop :=
  .refused
    { fault := .unexpectedValue (shown value) (dashed s.name),
      usage := some (g.usageOfSwitch s p.given) }

/-- The tip that a word with dashes can be an operand. -/
def operandTip (g : Grammar α ω) (word : String) : List Tip :=
  if g.operand.isSome then [.asOperand word] else []

/-- The options of subcommands that are close to a name, of the subcommands among the words that
follow, in the order of these words. -/
def elsewhere (g : Grammar α ω) (name : String) (rest : List Bytes) : List Tip :=
  rest.flatMap fun word =>
    (g.commands.filter fun c => bytesOf c.1 == word).flatMap fun c =>
      ((Text.suggestions name c.2).getLast?.map fun o => Tip.belongsTo c.1 (dashed o)).toList

/-- A full name that no option has. -/
def unknownName (g : Grammar α ω) (p : Progress α ω) (name : String) (rest : List Bytes) : Stop :=
  let p := (p.settle g).1
  let fault : Fault := .unexpected (dashed name)
  match (Text.suggestions name g.names).getLast? with
  | some near =>
    let shownNear := match g.options.find? (·.name == near) with
      | some o => o.shown
      | none => dashed near
    .refused
      { fault, tips := [.similar "argument" (dashed near)],
        usage := some (g.usage (p.given.filter (· ≠ shownNear) ++ [shownNear])) }
  | none =>
    match elsewhere g name rest with
    | tip :: _ => .refused { fault, tips := [tip], usage := some (g.usage p.given) }
    | [] => .refused { fault, tips := operandTip g (dashed name), usage := some (g.usage p.given) }

/-- Letters that no option has. -/
def unknownLetters (g : Grammar α ω) (letters : String) : Stop :=
  let word := "-" ++ letters
  .refused { fault := .unexpected word, tips := operandTip g word, usage := some (g.usage []) }

/-- The value behind a letter, perhaps with an equals sign between them. -/
def valueBehind : Bytes → Option Bytes
  | [] => none
  | b :: rest => if b = equals then some rest else some (b :: rest)

/-- Letters behind a dash. -/
def letters (g : Grammar α ω) (p : Progress α ω) (bs : Bytes) : Except Stop (Progress α ω) :=
  match Text.Utf8.decodeUnits bs with
  | some c :: _ =>
    match g.optionOfLetter? c with
    | some o => p.option g o (valueBehind (bs.drop c.utf8Size))
    | none =>
      match g.switchOfLetter? c with
      | some s => .error (p.switch g s false)
      | none => .error (unknownLetters g (String.ofList [c]))
  | _ => .error (unknownLetters g (shown bs))

/-- A plain word where no operand may stand. -/
def superfluous (g : Grammar α ω) (p : Progress α ω) (word : Bytes) : Stop :=
  let usage := some (g.usage [])
  let written := shown word
  match if p.operandsOnly then g.command? word else none with
  | some name => .refused { fault := .unexpected written, tips := [.hidden name], usage }
  | none =>
    if g.commands = [] then .refused { fault := .unexpected written, usage }
    else
      let tips : List Tip := match Text.suggestions written (g.commands.map (·.1)) with
        | [] => []
        | [name] => [.similar "subcommand" name]
        | names => [.similarSubcommands names]
      .refused { fault := .unknownSubcommand written, tips, usage }

/-- A plain word that is no value. -/
def operandWord (g : Grammar α ω) (p : Progress α ω) (word : Bytes) : Except Stop (Progress α ω) :=
  match if p.hasOperand then none else g.operand with
  | none => .error (p.superfluous g word)
  | some o => (p.settled g).map fun p =>
      { p with pending := some (.operand o word), hasOperand := true }

/-- A plain word. -/
def plain (g : Grammar α ω) (p : Progress α ω) (word : Bytes) : Except Stop (Progress α ω) :=
  match p.awaiting, p.pending with
  | true, some (.option o _) =>
    .ok { p with pending := some (.option o (some word)), awaiting := false }
  | _, _ => p.operandWord g word

/-- A word that neither names a subcommand nor follows the end of the options. `rest` are the words
behind it. -/
def word (g : Grammar α ω) (p : Progress α ω) (bs : Bytes) (rest : List Bytes) :
    Except Stop (Progress α ω) :=
  match Word.ofBytes bs with
  | .separator => .ok { p with operandsOnly := true }
  | .short bs => p.letters g bs
  | .plain => p.plain g bs
  | .long name value =>
    match g.option? name, g.switch? name with
    | some o, _ => p.option g o value
    | none, none => .error (p.unknownName g (shown name) rest)
    | none, some s =>
      match value with
      | some v => .error (p.switchWithValue g s v)
      | none => .error (p.switch g s true)

end Progress

/-- Reads words up to a subcommand, which is given with the words behind it, or to the end. What is
pending then is not read yet. -/
def scan (g : Grammar α ω) (p : Progress α ω) :
    List Bytes → Except Stop (Progress α ω × Option (String × List Bytes))
  | [] => .ok (p, none)
  | bs :: rest =>
    match if p.operandsOnly || p.awaiting then none else g.command? bs with
    | some name => .ok (p, some (name, rest))
    | none =>
      match if p.operandsOnly then p.operandWord g bs else p.word g bs rest with
      | .error e => .error e
      | .ok p => scan g p rest

/-- Reads all words of a command without subcommands. -/
def Grammar.parse (g : Grammar α ω) (words : List Bytes) : Except Stop (Progress α ω) :=
  match scan g {} words with
  | .error e => .error e
  | .ok (p, _) => p.settled g

/-- The operand of a command that has to have one. -/
def Progress.requiredOperand (g : Grammar α ω) (p : Progress α ω) : Except Stop ω :=
  match p.operand with
  | some a => .ok a
  | none =>
    let missing := (g.operand.map Operand.shown).getD ""
    .error (.refused
      { fault := .missingOperand missing, usage := some (g.usage (p.given ++ [missing])) })

end ClarityCheck.CommandLine
