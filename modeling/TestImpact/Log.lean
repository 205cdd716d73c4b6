namespace TestImpact

inductive Level
  | debug | info | warn | error
  deriving DecidableEq, Repr

def Level.name : Level → String
  | .debug => "debug"
  | .info => "info"
  | .warn => "warn"
  | .error => "error"

structure LogLine where
  level : Level
  text : String
  deriving DecidableEq, Repr

structure Event where
  level : String
  component : String
  message : String
  deriving DecidableEq, Repr

inductive Logger
  /-- Every line becomes an event tagged with the component's name. -/
  | events (component : String)
  | silent
  deriving DecidableEq, Repr

def Logger.emit : Logger → List LogLine → List Event
  | .events component, lines =>
    lines.map fun line => ⟨line.level.name.toUpper, component, line.text⟩
  | .silent, _ => []

end TestImpact
