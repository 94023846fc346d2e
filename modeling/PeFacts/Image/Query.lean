import PeFacts.Image.Session

/-!
# Queries

What can be asked of an image by name: its facts (`Fact`), and questions with arguments (`Query`).
`Image.answer` answers a query with a plain value.
-/

namespace PeFacts

/-- A fact about an image that is asked for by name alone. -/
inductive Fact
  | isPe | mode | isMapped | data | errors | header
  | machine | subsystem | timestamp | imageBase | characteristics | dllCharacteristics
  | linkerVersion | osVersion | imageVersion | subsystemVersion
  | sizeOfImage | sizeOfHeaders | checksum | numberOfRvaAndSizes | dataDirectories
  | entryPoint | entryPointRaw | numberOfSections | sections | overlay
  | importTable | exportTable | resourceIndex | versionInfo | signatures | richSignature | pdbPath
  | numberOfImports | numberOfImportedFunctions | numberOfExports | dllName | exportTimestamp
  | resources | numberOfResources | numberOfSignatures | isSigned
  deriving Repr, DecidableEq

/-- The facts under the names by which they are asked for. -/
def Fact.names : List (String × Fact) := [
  ("is_pe", .isPe), ("mode", .mode), ("is_mapped", .isMapped), ("data", .data),
  ("errors", .errors), ("header", .header), ("machine", .machine), ("subsystem", .subsystem),
  ("timestamp", .timestamp), ("image_base", .imageBase), ("characteristics", .characteristics),
  ("dll_characteristics", .dllCharacteristics), ("linker_version", .linkerVersion),
  ("os_version", .osVersion), ("image_version", .imageVersion),
  ("subsystem_version", .subsystemVersion), ("size_of_image", .sizeOfImage),
  ("size_of_headers", .sizeOfHeaders), ("checksum", .checksum),
  ("number_of_rva_and_sizes", .numberOfRvaAndSizes), ("data_directories", .dataDirectories),
  ("entry_point", .entryPoint), ("entry_point_raw", .entryPointRaw),
  ("number_of_sections", .numberOfSections), ("sections", .sections), ("overlay", .overlay),
  ("import_table", .importTable), ("export_table", .exportTable),
  ("resource_index", .resourceIndex), ("version_info", .versionInfo),
  ("signatures", .signatures), ("rich_signature", .richSignature), ("pdb_path", .pdbPath),
  ("number_of_imports", .numberOfImports),
  ("number_of_imported_functions", .numberOfImportedFunctions),
  ("number_of_exports", .numberOfExports), ("dll_name", .dllName),
  ("export_timestamp", .exportTimestamp), ("resources", .resources),
  ("number_of_resources", .numberOfResources), ("number_of_signatures", .numberOfSignatures),
  ("is_signed", .isSigned)]

/-- The fact that is asked for by this name. -/
def Fact.ofName? (name : String) : Option Fact := (names.find? (·.1 == name)).map (·.2)

/-- A place in the headers that is asked for by name. -/
inductive HeaderField
  | optionalHeaderOffset | checksumOffset | sectionTableOffset | pointerToSymbolTable
  | numberOfSymbols
  deriving Repr, DecidableEq

/-- The places in the headers under the names by which they are asked for. -/
def HeaderField.names : List (String × HeaderField) := [
  ("optional_header_offset", .optionalHeaderOffset), ("checksum_offset", .checksumOffset),
  ("section_table_offset", .sectionTableOffset),
  ("pointer_to_symbol_table", .pointerToSymbolTable), ("number_of_symbols", .numberOfSymbols)]

/-- The place in the headers that is asked for by this name. -/
def HeaderField.ofName? (name : String) : Option HeaderField :=
  (names.find? (·.1 == name)).map (·.2)

/-- What a place in the headers holds. -/
def Header.field (h : Header) : HeaderField → Nat
  | .optionalHeaderOffset => h.optionalHeaderOffset
  | .checksumOffset => h.checksumOffset
  | .sectionTableOffset => h.sectionTableOffset
  | .pointerToSymbolTable => h.pointerToSymbolTable
  | .numberOfSymbols => h.numberOfSymbols

/-- How a section is asked for: by its name or by an address in it. -/
inductive SectionKey
  | name (s : String)
  | rva (n : Int)
  deriving Repr, DecidableEq

/-- A question about an image. -/
inductive Query
  | fact (f : Fact)
  | isDll
  | is32Bit
  | is64Bit
  | sectionIndex (key : SectionKey)
  | offset (rva : Int)
  | calculatedChecksum
  | exports (key : FunctionKey)
  | imports (dll : String) (key : FunctionKey)
  | locale (id : Int)
  | language (id : Int)
  | imphash
  | snapshot
  | analyze
  | constant (name : String)
  | directory (index : Int)
  | layout
  | headerField (f : HeaderField)
  | mappedSize (index : Int)
  | sectionContains (index rva : Int)
  | importFunctions
  | richVersion (version : Int) (toolId? : Option Int)
  | richTool (toolId : Int) (version? : Option Int)
  | validOn (time : Int)
  | firstOfType (id : Int)
  deriving Repr, DecidableEq

/-- A version as a list of its numbers. -/
def Version.toValue (v : Version) : Value := .list [.nat v.major, .nat v.minor]

/-- A data directory as a list of its address and size. -/
def DataDirectory.toValue (d : DataDirectory) : Value := .list [.nat d.address, .nat d.size]

/-- A header layout as a record. -/
def HeaderLayout.toValue (l : HeaderLayout) : Value :=
  .record [
    ("name", .text l.name),
    ("magic", .nat l.magic),
    ("image_base_offset", .nat l.imageBaseOffset),
    ("image_base_size", .nat l.imageBaseSize),
    ("number_of_rva_offset", .nat l.directoryCountOffset),
    ("data_directory_offset", .nat l.directoriesOffset),
    ("thunk_size", .nat l.thunkSize),
    ("ordinal_flag", .nat l.ordinalFlag),
    ("is_64bit", .bool l.is64Bit)]

/-- An imported function as a list of its name, its ordinal, its hint and whether it has no name. -/
def ImportedFunction.toValue (f : ImportedFunction) : Value :=
  .list [.option .text f.name?, .option .int f.ordinal?, .option .nat f.hint?, .bool f.byOrdinal]

namespace Image

/-- A number of the headers, missing when there are none. -/
def headerValue (i : Image) (field : Header → Value) : Value := .option field i.header?

/-- A fact as a plain value. -/
def fact (i : Image) : Fact → Access Value
  | .isPe => return .bool i.isPe
  | .mode => return .text i.mode.name
  | .isMapped => return .bool i.isMapped
  | .data => return .text i.data.hex
  | .errors => return .list ((← get).problems.map Problem.record)
  | .header => return i.headerValue Header.toValue
  | .machine => return i.headerValue fun h => .nat h.machine
  | .subsystem => return i.headerValue fun h => .nat h.subsystem
  | .timestamp => return i.headerValue fun h => .nat h.timestamp
  | .imageBase => return i.headerValue fun h => .nat h.imageBase
  | .characteristics => return i.headerValue fun h => .nat h.characteristics
  | .dllCharacteristics => return i.headerValue fun h => .nat h.dllCharacteristics
  | .linkerVersion => return i.headerValue fun h => h.linkerVersion.toValue
  | .osVersion => return i.headerValue fun h => h.osVersion.toValue
  | .imageVersion => return i.headerValue fun h => h.imageVersion.toValue
  | .subsystemVersion => return i.headerValue fun h => h.subsystemVersion.toValue
  | .sizeOfImage => return i.headerValue fun h => .nat h.sizeOfImage
  | .sizeOfHeaders => return i.headerValue fun h => .nat h.sizeOfHeaders
  | .checksum => return i.headerValue fun h => .nat h.checksum
  | .numberOfRvaAndSizes => return i.headerValue fun h => .nat h.numberOfRvaAndSizes
  | .dataDirectories =>
    return .list ((i.header?.elim [] (·.directories)).map DataDirectory.toValue)
  | .entryPoint => return .option .nat (← Session.guarded i.entryPointReading)
  | .entryPointRaw => return i.headerValue fun h => .nat h.entryPoint
  | .numberOfSections => return i.headerValue fun h => .nat h.numberOfSections
  | .sections => return .list (i.sections.sections.map Section.toValue)
  | .overlay =>
    return .option (fun (offset, size) => .list [.nat offset, .nat size]) i.overlay?
  | .importTable => return .list ((← i.importTable).dlls.map ImportedDll.toValue)
  | .exportTable => return (← i.exportTable).toValue
  | .resourceIndex => return (← i.resourceIndex).toValue
  | .versionInfo => return .record ((← i.versionInfo).map fun (key, value) => (key, .text value))
  | .signatures => return .list ((← i.signatures).map SignatureRecord.toValue)
  | .richSignature => return .option RichSignature.toValue (← i.richSignature)
  | .pdbPath => return .option .text (← i.pdbPath)
  | .numberOfImports => return .nat (← i.importTable).dlls.length
  | .numberOfImportedFunctions => return .nat (← i.importTable).functionCount
  | .numberOfExports => return .nat (← i.exportTable).functionCount
  | .dllName => return .option .text (← i.exportTable).dllName?
  | .exportTimestamp => return .option .nat (← i.exportTable).timestamp?
  | .resources => return .list ((← i.resourceIndex).entries.map ResourceEntry.toValue)
  | .numberOfResources => return .nat (← i.resourceIndex).entries.length
  | .numberOfSignatures => return .nat (← i.signatures).length
  | .isSigned => return .bool !(← i.signatures).isEmpty

/-- The headers, which must be there. -/
def requiredHeader (i : Image) : Access Header :=
  match i.header? with
  | some h => return h
  | none => throw .noHeader

/-- The section at a place, which must exist. -/
def requiredSection (i : Image) (index : Int) : Access Section :=
  match i.sections.item? index with
  | some s => return s
  | none => throw .noSection

/-- The number of this name, which must exist. -/
def requiredConstant (name : String) : Access Nat :=
  match constant? name with
  | some n => return n
  | none => throw .noConstant

/-- The place of the section that a key asks for. -/
def sectionIndex? (i : Image) : SectionKey → Option Nat
  | .name s => i.sections.indexOf? s
  | .rva n => (i.sections.sectionFor? n).map (·.index)

/-- The answer to a query. -/
def answer (i : Image) : Query → Access Value
  | .fact f => i.fact f
  | .isDll => return .bool i.isDll
  | .is32Bit => return .bool i.is32Bit
  | .is64Bit => return .bool i.is64Bit
  | .sectionIndex key => return .option .nat (i.sectionIndex? key)
  | .offset rva => return .option .nat (← Session.guarded (i.offsetReading rva))
  | .calculatedChecksum => return .option .nat (← Session.guarded i.checksumReading)
  | .exports key => return .bool ((← i.exportTable).exports key)
  | .imports dll key => return .bool ((← i.importTable).imports dll key)
  | .locale id => return .bool ((← i.resourceIndex).hasLocale id)
  | .language id => return .bool ((← i.resourceIndex).hasLanguage id)
  | .imphash => return .text (← i.importHash)
  | .snapshot => i.snapshot
  | .analyze => do
    i.analyze
    return .null
  | .constant name => return .nat (← requiredConstant name)
  | .directory index => do
    let h ← i.requiredHeader
    return (((Bytes.position? index).map h.directory).getD ⟨0, 0⟩).toValue
  | .layout => return (← i.requiredHeader).layout.toValue
  | .headerField f => return .nat ((← i.requiredHeader).field f)
  | .mappedSize index => return .nat (← i.requiredSection index).mappedSize
  | .sectionContains index rva => return .bool ((← i.requiredSection index).contains rva)
  | .importFunctions =>
    return .list ((← i.importTable).dlls.map fun d =>
      .list [.text d.name, .list (d.functions.map ImportedFunction.toValue)])
  | .richVersion version toolId? =>
    return .option (fun r => .nat (r.versionCount version toolId?)) (← i.richSignature)
  | .richTool toolId version? =>
    return .option (fun r => .nat (r.toolCount toolId version?)) (← i.richSignature)
  | .validOn time => return .list ((← i.signatures).map fun r => .bool (r.validOn time))
  | .firstOfType id =>
    return .option ResourceEntry.toValue ((← i.resourceIndex).firstOfType? id)

/-- Asks a query in a session: the answer, or why there is none, and the session that it leaves. -/
def ask (i : Image) (q : Query) (s : Session) : Except AccessFault Value × Session :=
  (i.answer q).run.run s

/-- The session after queries were asked one after the other. -/
def after (i : Image) (qs : List Query) : Session :=
  qs.foldl (fun s q => (i.ask q s).2) (Session.start i)

end Image

end PeFacts
