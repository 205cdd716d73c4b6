import TestImpact.Action
import TestImpact.Files.Tree

namespace TestImpact.Files

structure Disk (σ : Type) where
  ensureDirectory : Path → Action Cause σ Unit
  write : Path → List UInt8 → Action Cause σ Unit
  readText : Path → Action Cause σ String

def FileTree.disk : Disk FileTree where
  ensureDirectory p := fun t =>
    match t.ensureDirectory p with
    | (t', .ok ()) => ⟨.ok (), t', []⟩
    | (t', .error cause) => ⟨.error (.failed cause), t', []⟩
  write p content := fun t =>
    match t.write p content with
    | .ok t' => ⟨.ok (), t', []⟩
    | .error cause => ⟨.error (.failed cause), t, []⟩
  readText p := fun t =>
    match t.readText p with
    | .ok s => ⟨.ok s, t, []⟩
    | .error cause => ⟨.error (.failed cause), t, []⟩

def Disk.within {σ τ : Type} (view : τ → σ) (put : σ → τ → τ) (d : Disk σ) : Disk τ where
  ensureDirectory p := (d.ensureDirectory p).zoom view put
  write p content := (d.write p content).zoom view put
  readText p := (d.readText p).zoom view put

end TestImpact.Files
