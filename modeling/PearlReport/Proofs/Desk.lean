import PearlReport.Proofs.History

/-! Settings in hand, worked on step by step beside the files. Only saving writes, to one file; an
attempt to save that fails may leave directories, and the file that it opened cut. -/

namespace PearlReport.Settings

variable {s s' : Settings} {key value : String}

inductive Step where
  | get (key : String)
  | set (key value : String)
  | merge (verbose force : Bool)
  | save (directory : String) (device : Device)
  | load (directory : String)

inductive Answer where
  | done
  | value (setting : Option Bool)

structure Desk where
  settings : Settings
  files : FileTree

namespace Desk

structure Reply where
  answer : Except Error Answer
  left : Desk

def take (d : Desk) : Except Error Settings → Reply
  | .ok s => ⟨.ok .done, ⟨s, d.files⟩⟩
  | .error e => ⟨.error e, d⟩

def keep (d : Desk) (change : Change) : Reply :=
  ⟨(fun _ => .done) <$> change.outcome.mapError .io, ⟨d.settings, change.files⟩⟩

def step (d : Desk) : Step → Reply
  | .get key => ⟨.ok (.value (d.settings.get? key)), d⟩
  | .set key value => d.take (d.settings.set key value)
  | .merge verbose force => d.take (.ok (d.settings.withFlags verbose force))
  | .save directory device => d.keep (d.settings.save d.files device directory)
  | .load directory => d.take (load d.files directory)

def run (d : Desk) (steps : List Step) : Desk := steps.foldl (fun d step => (d.step step).left) d

variable {d : Desk} {step : Step} {steps : List Step} {l : Location} {directory : String}
  {device : Device}

end Desk

end PearlReport.Settings
