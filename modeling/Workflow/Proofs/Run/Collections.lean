import Workflow.Proofs.Builtin.Collections
import Workflow.Proofs.Run.Changes

/-!
# Workspaces whose geolayers and tables are well formed

A processor for the built-in commands starts with neither geolayers nor tables.  Whatever is done
with the processor, on whatever files, all that happens to its workspace are changes that keep
geolayers and tables well formed.  So they are well formed behind every operation and in front of
every command of a run.
-/

namespace Workflow

theorem Workspace.IsMade.isWellFormed {workspace : Workspace} (made : workspace.IsMade) :
    workspace.IsWellFormed := by
  obtain ⟨properties, becomes⟩ := made
  exact becomes.keeps IsWellFormed.of_change ⟨.empty, .empty⟩

namespace Processor

/-- The processor knows the built-in commands and no others, and its workspace is well formed. -/
structure IsSound (processor : Processor) : Prop where
  registry : processor.registry = Builtin.registry
  recognized : ∀ command ∈ processor.commands, command.RecognizedBy Builtin.registry
  formed : processor.workspace.IsWellFormed

theorem IsSound.isWellFormed_walk {processor : Processor} (sound : processor.IsSound)
    (files : FileSystem) (chosen : Nat → Bool) :
    (processor.walked processor.runFile files chosen).1.workspace.IsWellFormed ∧
      ∀ stride ∈ processor.trace processor.runFile files chosen,
        stride.before.workspace.IsWellFormed := by
  have builtin : processor.IsBuiltin := ⟨sound.registry, sound.recognized⟩
  obtain ⟨last, each⟩ := builtin.becomes_walked files chosen
  exact ⟨last.keeps Workspace.IsWellFormed.of_change sound.formed,
    fun stride member => (each stride member).keeps Workspace.IsWellFormed.of_change sound.formed⟩

/-- Whatever is done with a processor, it stays sound. -/
theorem Reachable.isSound {processor : Processor} (reachable : processor.Reachable) :
    processor.IsSound := by
  obtain ⟨builtin, made⟩ := reachable.isBuiltin_and_isMade
  exact ⟨builtin.registry, builtin.recognized, made.isWellFormed⟩

/-- Whatever is done with a processor for the built-in commands, on any files, its geolayers and
tables are well formed, and they are so in front of every command of its runs. -/
theorem isWellFormed_of_reachable {processor : Processor} (reachable : processor.Reachable) :
    processor.workspace.IsWellFormed ∧
      ∀ (files : FileSystem) (chosen : Nat → Bool),
        ∀ stride ∈ processor.trace processor.runFile files chosen,
          stride.before.workspace.IsWellFormed := by
  have sound := reachable.isSound
  refine ⟨sound.formed, ?_⟩
  intro files chosen
  exact (sound.isWellFormed_walk files chosen).2

/-- A network on which only the second request succeeds, and brings a row that is longer than its
header. -/
def flakyNetwork : Network :=
  { Network.offline with
    reply := fun call _ =>
      if call = 2 then .response 200 (.ok "a\n1,2\n".toUTF8) else .response 503 (.ok .empty) }

/-- Files with a bare geometry. -/
def collectedFiles : FileSystem :=
  { FileSystem.empty [] "/" with
    files := [(["p.json"], "\x7b\"type\":\"Point\"\x7d".toUTF8)]
    network := flakyNetwork }

/-- A processor that has read a geolayer under the name that a property holds, has copied it, and
has downloaded and read a table. -/
def collecting : Processor :=
  (((create Builtin.registry {} collectedFiles 0).setProperty "id" (.text "a")).loadText
    "ReadGeoLayerFromGeoJSON(InputFile=p.json,GeoLayerID=${id})
CopyGeoLayer(GeoLayerID=a,CopiedGeoLayerID=b)
WebGet(URI=http://h/t,OutputFile=t.csv,RetryCount=1)
ReadTableFromDelimitedFile(InputFile=t.csv,TableID=t)").runAll collectedFiles |>.processor

theorem isWellFormed_of_reachable_collecting :
    collecting.Reachable ∧
      (collecting.workspace.layers.keys, collecting.workspace.tables.keys) = (["a", "b"], ["t"]) ∧
      collecting.workspace.IsWellFormed := by
  have reachable : collecting.Reachable := by
    rw [collecting]
    exact .ranAll _ (.loadedText _ (.setProperty _ _ (.created _ _ _)))
  refine ⟨reachable, ?_, (isWellFormed_of_reachable reachable).1⟩
  decide +kernel

end Processor

end Workflow
