import CppTemplates.Instantiation.Analyzer
import CppTemplates.Instantiation.Injection
import CppTemplates.Tree.Copy

/-!
# Instantiating function templates

A function template instance gets its definition by rebuilding a copy of the primary template's
definition with the template arguments declared around it. Nothing is done while an ambiguity is
being resolved, before the primary template is defined, when the instance is defined already, or
when its instantiation is in progress further up.
-/

namespace CppTemplates

namespace Session

variable (session : Session)

def primaryFunction? (entry : SymbolId) : Option SymbolId := do
  let specialization ← session.functionSpecialization? entry
  let data ← session.program.templateData? specialization.template
  some data.primary

def functionDefinition? (entry : SymbolId) : Option NodeId := do
  let data ← session.program.functionData? (← (session.program.entry entry).type)
  data.definition

/-- Why a function template instance need not be built now, if so. -/
def reasonToSkip? (entry primary : SymbolId) : Option String :=
  if !(session.program.entry primary).defined then
    some "Not instantiating since primary template has not been defined"
  else if (session.program.entry entry).defined then
    some "Instantiation already performed"
  else if session.isActive entry then
    some "Instantiation already in progress"
  else
    none

end Session

namespace Activity

variable {σ : Type}

/-- Builds the definition of an instance that is being instantiated. -/
def buildFunction (analyzer : Analyzer σ) (perform : Request → Activity σ Unit)
    (request : Request) (definition : Option NodeId) : Activity σ Unit := do
  let entry := request.entry
  let opened ← instantiationContext entry none
  match definition with
  | none => throw (.missingDefinition ((← program).symbolName entry))
  | some definition =>
      let copy ← onTree (·.copyForInstantiation definition)
      let context :=
        { opened with
          flags := { opened.flags with template := true, explicitSpecialization := true } }
      withSwitch .testExpression <| (analyzer.buildFunction copy context).run perform
      modifyProgram (·.modifyEntry entry fun symbol => { symbol with defined := true })
      modifySession (·.record entry request.location)
      debug fun session =>
        "Instantiation of function '" ++ session.program.symbolName entry ++ "' ended"

/-- Instantiates a function template instance, given how further requests are carried out. -/
def instantiateFunction (analyzer : Analyzer σ) (perform : Request → Activity σ Unit)
    (request : Request) : Activity σ Unit := do
  let entry := request.entry
  if (← session).checkingAmbiguity then
    debug fun _ => "Not instantiating during ambiguity resolution"
  else if ((← program).entry entry).kind ≠ .function then
    throw (.invalidSymbol ((← program).symbolName entry) ((← program).entry entry).kind)
  else
    debug fun session =>
      "Instantiating function '" ++ session.program.symbolName entry ++ "' at '" ++
        request.location.render ++ "'"
    match (← session).primaryFunction? entry with
    | none => throw (.notEligibleFunction ((← program).symbolName entry))
    | some primary =>
        match (← session).reasonToSkip? entry primary with
        | some reason => debug fun _ => reason
        | none =>
            let definition := (← session).functionDefinition? primary
            within entry request.location <| buildFunction analyzer perform request definition

end Activity

end CppTemplates
