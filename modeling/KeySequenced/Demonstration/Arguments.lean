import KeySequenced.Demonstration

/-!
# Arguments of the demonstration

The options `--records`, `--cluster` and `--snapshot-dir`, each given at most
once, with its value behind an equals sign or as the next argument.  What the
arguments leave open is taken from the environment.
-/

set_option autoImplicit false

namespace KeySequenced.Demonstration

structure Options where
  records : Option Nat
  cluster : Option String
  directory : Option String

namespace Options

def unset : Options := ⟨none, none, none⟩

/-- The number that an unsigned word of 32 bits is written as. -/
def number? (text : String) : Option Nat :=
  let digits :=
    match text.toList with
    | '+' :: rest => rest
    | all => all
  if digits.isEmpty || !digits.all Char.isDigit then none
  else
    let value := digits.foldl (fun sum digit => sum * 10 + (digit.toNat - 48)) 0
    if value < UInt32.size then some value else none

def set? (options : Options) (name value : String) : Option Options :=
  match name with
  | "--records" =>
    if options.records.isSome then none
    else (number? value).map fun count => { options with records := some count }
  | "--cluster" =>
    if options.cluster.isSome then none else some { options with cluster := some value }
  | "--snapshot-dir" =>
    if options.directory.isSome then none else some { options with directory := some value }
  | _ => none

def splitEquals (argument : String) : String × Option String :=
  let characters := argument.toList
  let name := String.ofList (characters.takeWhile (· != '='))
  match characters.dropWhile (· != '=') with
  | [] => (name, none)
  | _ :: value => (name, some (String.ofList value))

/-- Reads arguments into options; none if they cannot be understood. -/
def read? (options : Options) : List String → Option Options
  | [] => some options
  | argument :: rest =>
    match splitEquals argument with
    | (name, some value) => (options.set? name value).bind fun after => read? after rest
    | (name, none) =>
      match rest with
      | [] => none
      | value :: rest =>
        if value.toList.head? = some '-' then none
        else (options.set? name value).bind fun after => read? after rest

def orElse (options fallback : Options) : Options where
  records := options.records <|> fallback.records
  cluster := options.cluster <|> fallback.cluster
  directory := options.directory <|> fallback.directory

/-- The request that the options make, ten records of `DEMO.KSDS` if they say nothing else. -/
def request (options : Options) : Request where
  records := options.records.getD 10
  cluster := options.cluster.getD "DEMO.KSDS"
  directory := options.directory

end Options

def request? (arguments : List String) (environment : Options) : Option Request :=
  (Options.unset.read? arguments).map fun options => (options.orElse environment).request

end KeySequenced.Demonstration
