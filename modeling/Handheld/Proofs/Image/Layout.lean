import Handheld.Image.Builder

namespace Handheld

/-!
# The layout of images

Directives append their bytes one after the other, each under the factor that
the ones before it have left in force. Where no label is named, nothing is filled
in afterwards, and the image is the header followed by these bytes.
-/

namespace Directive

/-- The directives that leave an address to fill in. -/
def namesLabel : Directive → Bool
  | .toLabel _ _ => true
  | _ => false

end Directive

namespace Builder

/-- The factor in force after a directive. -/
def factorAfter
    (factor : UInt8) :
    Directive → UInt8
  | .xorFactor newFactor => newFactor
  | _ => factor

/-- The bytes of directives one after the other. -/
def encodeAll
    (factor : UInt8) :
    List Directive → List UInt8
  | [] => []
  | directive :: rest =>
      encode factor directive ++ encodeAll (factorAfter factor directive) rest

/-- Writing a directive adds its bytes behind the code. -/
theorem code_add
    (builder : Builder)
    (directive : Directive) :
    (builder.add directive).code.toList =
      builder.code.toList ++ encode builder.factor directive := by
  cases directive with
  | _ => exact Array.toList_appendList

/-- Only a cipher directive changes the factor. -/
theorem factor_add
    (builder : Builder)
    (directive : Directive) :
    (builder.add directive).factor = factorAfter builder.factor directive := by
  cases directive with
  | _ => rfl

/-- A directive that names no label leaves nothing to be filled in. -/
theorem pending_add
    {builder : Builder}
    {directive : Directive}
    (unnamed : directive.namesLabel = false) :
    (builder.add directive).pending = builder.pending := by
  cases directive with
  | toLabel => cases unnamed
  | _ => rfl

/-- Directives append their bytes one after the other. -/
theorem code_foldl_add
    (directives : List Directive)
    (builder : Builder) :
    (directives.foldl add builder).code.toList =
      builder.code.toList ++ encodeAll builder.factor directives := by
  induction directives generalizing builder with
  | nil => exact (List.append_nil _).symm
  | cons directive rest inductionHypothesis =>
      rw [List.foldl_cons, inductionHypothesis, code_add, factor_add, encodeAll, List.append_assoc]

/-- Directives that name no labels leave nothing to be filled in. -/
theorem pending_foldl_add
    {directives : List Directive}
    (builder : Builder)
    (unnamed : ∀ directive ∈ directives, directive.namesLabel = false) :
    (directives.foldl add builder).pending = builder.pending := by
  induction directives generalizing builder with
  | nil => rfl
  | cons directive rest inductionHypothesis =>
      rw [List.forall_mem_cons] at unnamed
      rw [List.foldl_cons, inductionHypothesis _ unnamed.2, pending_add unnamed.1]

/-- A halt adds its byte, whatever factor is in force. -/
theorem encodeAll_halt
    (factor : UInt8)
    (directives : List Directive) :
    encodeAll factor (directives ++ [.halt]) =
      encodeAll factor directives ++ [Instruction.halt.byte] := by
  induction directives generalizing factor with
  | nil => rfl
  | cons directive rest inductionHypothesis =>
      rw [List.cons_append, encodeAll, encodeAll, inductionHypothesis, List.append_assoc]

/-- The position after directives counts the header and their bytes. -/
theorem position_foldl_add (directives : List Directive) :
    (directives.foldl add {}).position = Image.codeStart + (encodeAll 0 directives).length := by
  unfold position
  rw [← Array.length_toList, code_foldl_add, List.length_append]
  rfl

/-- A program that names no label is assembled into its bytes behind the header. -/
theorem assemble_of_unnamed
    {program : List Directive}
    (unnamed : ∀ directive ∈ program, directive.namesLabel = false) :
    assemble program = .ok (Image.header ++ encodeAll 0 program) := by
  have nothingPending : (program.foldl add {}).pending = [] := pending_foldl_add {} unnamed
  have code : (program.foldl add {}).code = Image.header ++ encodeAll 0 program := by
    apply Array.toList_inj.mp
    rw [code_foldl_add, Array.toList_appendList]
  unfold assemble build
  rw [nothingPending, code]
  rfl

end Builder

/-- Bytes behind the header are accepted as an image. -/
theorem Image.check_header_append
    {bytes : List UInt8}
    (present : bytes ≠ []) :
    check (header ++ bytes) = .ok () := by
  obtain ⟨byte, rest, rfl⟩ := List.exists_cons_of_ne_nil present
  have long : codeStart < (header ++ byte :: rest).size := by
    rw [← Array.length_toList, Array.toList_appendList, List.length_append, List.length_cons]
    exact Nat.lt_add_of_pos_right (Nat.zero_lt_succ _)
  have letters : (header ++ byte :: rest).toList.take 3 = magic := by
    rw [Array.toList_appendList]
    rfl
  have versionByte : (header ++ byte :: rest)[3]? = some version := by
    rw [← Array.getElem?_toList, Array.toList_appendList]
    rfl
  unfold check
  rw [if_neg (Nat.not_le_of_lt long), if_neg (not_not_intro letters),
    if_neg (not_not_intro versionByte)]

end Handheld
