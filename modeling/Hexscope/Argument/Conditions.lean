import Hexscope.Debugger
import Hexscope.Argument

/-!
# Arguments for the debugger

A condition is a mapping whose `type` names a trigger, and a direction has a name too.
-/

namespace Hexscope

/-- The complaint about a value that is not one of the words for something. -/
def Argument.notWord (v : Value) (words : String) : Complaint :=
  ⟨.value, (v.quoted Value.ampleRoom).toOption.getD "" ++ " is not a valid " ++ words⟩

/-- The trigger of a name. -/
def Trigger.ofArgument (v : Value) : Except Complaint Trigger :=
  match Trigger.all.find? fun t => v.isSame (.text t.name) with
  | some t => .ok t
  | none => .error (Argument.notWord v "BreakpointConditionType")

/-- The condition of a mapping. -/
def Breakpoint.ofArgument : Value → Except Complaint Breakpoint
  | .mapping entries => do
    let get (name : String) (usual : Value) := (Value.lookup? entries name).getD usual
    match Value.lookup? entries "type" with
    | none => throw ⟨.missing, "'type'"⟩
    | some t => return {
        trigger := ← Trigger.ofArgument t
        value := get "value" .null
        address := get "address" .null
        register := get "register" .null
        enabled := get "enabled" (.bool true) }
  | _ => .error Argument.wrongForm

/-- The word for a direction. -/
def Direction.name : Direction → String
  | .read => "READ"
  | .write => "WRITE"

/-- The direction of a name. -/
def Direction.ofArgument (v : Value) : Except Complaint Direction :=
  match [Direction.read, .write].find? fun d => v.isSame (.text d.name) with
  | some d => .ok d
  | none => .error (Argument.notWord v "BusAccessType")

/-- The addresses of the last snapshot that were accessed in a direction. -/
def Debugger.accessedIn (d : Debugger) (direction : Value) : Except Complaint (List Int) :=
  match d.last with
  | none => .error Argument.withoutPart
  | some moment => do return moment.accessed (← Direction.ofArgument direction)

end Hexscope
