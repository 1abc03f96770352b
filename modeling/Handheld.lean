import Handheld.Image.Builder
import Handheld.Machine.Run
import Handheld.CommandLine.Session
import Handheld.Main
import Handheld.Proofs.Memory.LittleEndian
import Handheld.Proofs.Memory.Ranges
import Handheld.Proofs.Memory.TypedAccess
import Handheld.Proofs.Memory.OverlappingCopy
import Handheld.Proofs.Memory.ForwardCopy
import Handheld.Proofs.Machine.Outcome
import Handheld.Proofs.Machine.Effect
import Handheld.Proofs.Machine.BuiltinEffect
import Handheld.Proofs.Machine.InstructionEffect
import Handheld.Proofs.Machine.Step
import Handheld.Proofs.Machine.Atomic
import Handheld.Proofs.StackDiscipline
import Handheld.Proofs.ReachableBounds
import Handheld.Proofs.MemoryFaults
import Handheld.Proofs.NestedCalls
import Handheld.Proofs.Image.Layout
import Handheld.Proofs.Image.Labels
import Handheld.Proofs.Machine.CodeAhead
import Handheld.Proofs.StraightLine
import Handheld.Proofs.Text.Rendering
import Handheld.Proofs.Text.Page
import Handheld.Proofs.Text.CursorBounds
import Handheld.Proofs.Text.WholeCharacters
import Handheld.Proofs.Files.Independence
import Handheld.Proofs.Files.Sandbox
import Handheld.Proofs.Files.WorkingDirectory
import Handheld.Proofs.Files.PathsInside
import Handheld.Proofs.PreparedRuns
import Handheld.Proofs.StepLimit
import Handheld.Proofs.KeyLatch
import Handheld.Proofs.Files.FailedCalls
import Handheld.Proofs.Screen.Ovals
import Handheld.Proofs.Screen.Rectangles
import Handheld.Proofs.Screen.FilledOvals
import Handheld.Proofs.Screen.OvalOutlines
import Handheld.Proofs.Screen.WideOvals
import Handheld.Proofs.Screen.WholeBitmaps
import Handheld.Proofs.Screen.SavedBlocks
import Handheld.Proofs.Text.SplitText
import Handheld.Proofs.Choice.WaitingReads
import Handheld.Proofs.Text.PairGlyphs
import Handheld.Proofs.Addressing
import Handheld.Proofs.Text.Formats
import Handheld.Proofs.Memory.StringCopies
import Handheld.Proofs.Memory.StringSearch
import Handheld.Proofs.OperatorForms
import Handheld.Proofs.BoundedStack
import Handheld.Proofs.Memory.Remainder
import Handheld.Proofs.Memory.Cipher
import Handheld.Proofs.Text.KeyScripts
import Handheld.Proofs.Screen.BitShifts
import Handheld.Proofs.RandomCycle
