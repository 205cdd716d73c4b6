import TestImpact.Action
import TestImpact.Error

namespace TestImpact

inductive Delivered
  | uploaded (target : String)
  | written (path : Files.Path)
  deriving DecidableEq, Repr

def Delivered.text : Delivered → String
  | uploaded target => "uploaded to " ++ target
  | written path => "written to " ++ path.display

structure Store (σ : Type) where
  description : String
  store : String → Action DeliveryError σ Delivered

end TestImpact
