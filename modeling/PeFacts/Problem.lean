import PeFacts.Value

/-!
# Parse problems

What can be wrong with an image is reported and never stops the reading of its other facts. A
`Problem` is one such finding with the numbers it is about; `code`, `message`, `kind` and `details`
render it, and `record` is the record that reports hold.
-/

namespace PeFacts

/-- What a problem says about the buffer. -/
inductive ProblemKind
  /-- The buffer is no Portable Executable image. -/
  | notPe
  /-- A table of the image is damaged. -/
  | malformedDirectory
  /-- Two indications of the header layout disagree. -/
  | ambiguousLayout
  deriving Repr, DecidableEq

/-- The word for a kind in reports. -/
def ProblemKind.name : ProblemKind → String
  | .notPe => "not_pe"
  | .malformedDirectory => "malformed_directory"
  | .ambiguousLayout => "ambiguous_layout"

/-- Why the certificates of a signature blob could not be loaded. -/
inductive BlobFault
  /-- The blob is no well-formed signature structure with certificates. -/
  | malformed
  /-- The blob is well formed but holds something other than signed data. -/
  | unsupported
  deriving Repr, DecidableEq

/-- The word for a blob fault in messages. -/
def BlobFault.name : BlobFault → String
  | .malformed => "ValueError"
  | .unsupported => "UnsupportedAlgorithm"

/-- One finding about an image. -/
inductive Problem
  -- Headers
  | noDosSignature
  | newHeaderOutside (eLfanew : Nat)
  | badNtSignature (eLfanew : Nat)
  | coffTruncated (offset : Nat)
  | optionalMissing (offset : Nat)
  | optionalTruncated (offset : Nat) (layout : String)
  | badMagic (magic : Nat)
  | wideLayoutOnNarrowMachine (machine magic : Nat)
  | narrowLayoutOnWideMachine (machine magic : Nat)
  | optionalSizeExceedsFile (offset size : Nat)
  -- Sections
  | sectionCountClamped (count : Nat) (limit : Int)
  | sectionHeaderTruncated (index offset : Nat)
  -- Imports
  | importsUnmappable (rva : Nat)
  | tooManyDlls (limit : Int)
  | importDescriptorTruncated (offset : Nat)
  | dllNameUnreadable (rva : Nat)
  | thunksUnmappable (rva : Nat) (dll : String)
  | tooManyFunctions (dll : String) (limit : Int)
  | thunksTruncated (dll : String) (offset : Nat)
  | importNameUnreadable (dll : String) (rva : Nat)
  -- Exports
  | exportsUnmappable (rva : Nat)
  | exportDirectoryTruncated (offset : Nat)
  | exportDllNameUnreadable (rva : Nat)
  | tooManyExportedFunctions (count : Nat) (limit : Int)
  | exportAddressesUnmappable (rva : Nat)
  | exportAddressesTruncated (index : Nat)
  | tooManyExportedNames (count : Nat) (limit : Int)
  | exportNamesUnmappable (namesRva ordinalsRva : Nat)
  | exportNamesTruncated (index : Nat)
  | exportNameUnreadable (rva : Nat)
  -- Resources
  | resourcesUnmappable (rva : Nat)
  | resourceCycle (directory : Nat)
  | resourceTooDeep (limit : Int) (directory : Nat)
  | resourceDirectoryOutside (directory : Nat)
  | tooManyResourceNodes (limit : Int)
  | resourceEntryOutside (directory index : Nat)
  | resourceLeafAboveLanguage (directory level : Nat)
  | resourceDataEntryOutside (entry : Nat)
  | resourceDataUnmappable (rva : Nat)
  | versionInfoTooLarge (size : Nat) (limit : Int)
  | resourceDataTruncated (offset : Nat) (size : Int)
  -- Version information
  | versionRootUnreadable
  | versionRootKey (key : String)
  | versionTooDeep (depth : Nat)
  -- Debug directory
  | debugUnmappable (rva : Nat)
  | debugDirectoryTruncated (index : Nat)
  -- Rich header
  | richSearchClamped (limit eLfanew : Int)
  -- Certificate table and signatures
  | securityOutside (offset size : Int)
  | securityTruncated (offset : Nat)
  | tooManyCertificates (limit : Int)
  | badCertificateEntry (offset length : Nat)
  | signatureTooDeep (limit : Int)
  | signatureNotDer
  | certificatesUnreadable (fault : BlobFault)
  | notSignedData (contentType : String)
  | signerInfoUnreadable
  | signerCertificateMissing
  | countersignerCertificateMissing
  | countersignatureUnreadable
  | certificateFieldsUnreadable
  deriving Repr, DecidableEq

namespace Problem

/-- The stable code of a problem. -/
def code : Problem → String
  | noDosSignature => "E_PE_NO_DOS_SIGNATURE"
  | newHeaderOutside .. => "E_PE_E_LFANEW_OOB"
  | badNtSignature .. => "E_PE_BAD_NT_SIGNATURE"
  | coffTruncated .. => "E_PE_COFF_TRUNCATED"
  | optionalMissing .. => "E_PE_OPT_TRUNCATED"
  | optionalTruncated .. => "E_PE_OPT_TRUNCATED"
  | badMagic .. => "E_PE_OPT_BAD_MAGIC"
  | wideLayoutOnNarrowMachine .. => "E_PE_LAYOUT_MACHINE_MISMATCH"
  | narrowLayoutOnWideMachine .. => "E_PE_LAYOUT_MACHINE_MISMATCH"
  | optionalSizeExceedsFile .. => "E_PE_OPT_SIZE_EXCEEDS_FILE"
  | sectionCountClamped .. => "E_PE_SECTION_COUNT_CLAMPED"
  | sectionHeaderTruncated .. => "E_PE_SECTION_HEADER_TRUNCATED"
  | importsUnmappable .. => "E_PE_IMPORT_RVA_UNMAPPABLE"
  | tooManyDlls .. => "E_PE_IMPORT_TOO_MANY_DLLS"
  | importDescriptorTruncated .. => "E_PE_IMPORT_DESC_TRUNCATED"
  | dllNameUnreadable .. => "E_PE_IMPORT_DLL_NAME_UNREADABLE"
  | thunksUnmappable .. => "E_PE_IMPORT_THUNK_UNMAPPABLE"
  | tooManyFunctions .. => "E_PE_IMPORT_TOO_MANY_FUNCTIONS"
  | thunksTruncated .. => "E_PE_IMPORT_THUNK_TRUNCATED"
  | importNameUnreadable .. => "E_PE_IMPORT_BY_NAME_UNREADABLE"
  | exportsUnmappable .. => "E_PE_EXPORT_RVA_UNMAPPABLE"
  | exportDirectoryTruncated .. => "E_PE_EXPORT_DIR_TRUNCATED"
  | exportDllNameUnreadable .. => "E_PE_EXPORT_DLLNAME_UNREADABLE"
  | tooManyExportedFunctions .. => "E_PE_EXPORT_TOO_MANY_FUNCTIONS"
  | exportAddressesUnmappable .. => "E_PE_EXPORT_FUNCTIONS_UNMAPPABLE"
  | exportAddressesTruncated .. => "E_PE_EXPORT_FUNCTIONS_TRUNCATED"
  | tooManyExportedNames .. => "E_PE_EXPORT_TOO_MANY_NAMES"
  | exportNamesUnmappable .. => "E_PE_EXPORT_TABLES_UNMAPPABLE"
  | exportNamesTruncated .. => "E_PE_EXPORT_NAMES_TRUNCATED"
  | exportNameUnreadable .. => "E_PE_EXPORT_NAME_UNREADABLE"
  | resourcesUnmappable .. => "E_PE_RSRC_RVA_UNMAPPABLE"
  | resourceCycle .. => "E_PE_RSRC_CYCLE"
  | resourceTooDeep .. => "E_PE_RSRC_TOO_DEEP"
  | resourceDirectoryOutside .. => "E_PE_RSRC_DIR_OOB"
  | tooManyResourceNodes .. => "E_PE_RSRC_TOO_MANY_NODES"
  | resourceEntryOutside .. => "E_PE_RSRC_ENTRY_OOB"
  | resourceLeafAboveLanguage .. => "E_PE_RSRC_BAD_TREE"
  | resourceDataEntryOutside .. => "E_PE_RSRC_DATA_ENTRY_OOB"
  | resourceDataUnmappable .. => "E_PE_RSRC_DATA_RVA_UNMAPPABLE"
  | versionInfoTooLarge .. => "E_PE_RSRC_VS_TOO_LARGE"
  | resourceDataTruncated .. => "E_PE_RSRC_DATA_TRUNCATED"
  | versionRootUnreadable => "E_PE_VI_PARSE_FAILED"
  | versionRootKey .. => "E_PE_VI_BAD_ROOT"
  | versionTooDeep .. => "E_PE_VI_TOO_DEEP"
  | debugUnmappable .. => "E_PE_DEBUG_RVA_UNMAPPABLE"
  | debugDirectoryTruncated .. => "E_PE_DEBUG_DIR_TRUNCATED"
  | richSearchClamped .. => "E_PE_RICH_SEARCH_CLAMPED"
  | securityOutside .. => "E_PE_SECURITY_OOB"
  | securityTruncated .. => "E_PE_SECURITY_TRUNCATED"
  | tooManyCertificates .. => "E_PE_SECURITY_TOO_MANY_ENTRIES"
  | badCertificateEntry .. => "E_PE_SECURITY_BAD_ENTRY"
  | signatureTooDeep .. => "E_PE_SIG_TOO_DEEP"
  | signatureNotDer => "E_PE_SIG_BAD_DER"
  | certificatesUnreadable .. => "E_PE_SIG_CERTS_UNREADABLE"
  | notSignedData .. => "E_PE_SIG_NOT_SIGNED_DATA"
  | signerInfoUnreadable => "E_PE_SIG_SIGNERINFO_UNREADABLE"
  | signerCertificateMissing => "E_PE_SIG_SIGNER_CERT_MISSING"
  | countersignerCertificateMissing => "E_PE_SIG_SIGNER_CERT_MISSING"
  | countersignatureUnreadable => "E_PE_SIG_COUNTERSIGNATURE_UNREADABLE"
  | certificateFieldsUnreadable => "E_PE_SIG_CERT_UNREADABLE"

/-- The sentence that describes a problem. -/
def message : Problem → String
  | noDosSignature => "Missing MZ signature or DOS header truncated."
  | newHeaderOutside .. => "e_lfanew points outside file."
  | badNtSignature .. => "Missing PE\\0\\0 signature."
  | coffTruncated .. => "COFF header truncated."
  | optionalMissing .. => "Optional header missing."
  | optionalTruncated .. => "Optional header truncated before the data directory table."
  | badMagic .. => "Optional header magic not PE32/PE32+; using PE32 layout."
  | wideLayoutOnNarrowMachine .. => "PE32+ optional header on a 32-bit machine type."
  | narrowLayoutOnWideMachine .. => "PE32 optional header on a 64-bit machine type."
  | optionalSizeExceedsFile .. => "SizeOfOptionalHeader extends beyond end of file."
  | sectionCountClamped _ limit => s!"Section count too large; clamped to max_sections={limit}."
  | sectionHeaderTruncated .. => "Section header truncated."
  | importsUnmappable .. => "Import directory RVA could not be mapped to file offset."
  | tooManyDlls limit => s!"Import DLL count exceeded max_dlls={limit}."
  | importDescriptorTruncated .. => "Import descriptor table truncated."
  | dllNameUnreadable .. => "Import DLL name could not be mapped or read."
  | thunksUnmappable .. => "Import thunk RVA could not be mapped."
  | tooManyFunctions _ limit => s!"Import function count exceeded max_funcs={limit}."
  | thunksTruncated .. => "Import thunk table truncated."
  | importNameUnreadable .. => "Imported function name could not be mapped or read."
  | exportsUnmappable .. => "Export directory RVA could not be mapped to file offset."
  | exportDirectoryTruncated .. => "Export directory truncated."
  | exportDllNameUnreadable .. => "Export DLL name unmappable or unreadable."
  | tooManyExportedFunctions _ limit => s!"Export function count exceeded max_exports={limit}."
  | exportAddressesUnmappable .. => "Export address table unmappable."
  | exportAddressesTruncated .. => "Export address table truncated."
  | tooManyExportedNames _ limit => s!"Export name count exceeded max_exports={limit}."
  | exportNamesUnmappable .. => "Export name table unmappable."
  | exportNamesTruncated .. => "Export name table truncated."
  | exportNameUnreadable .. => "Export name unmappable or unreadable."
  | resourcesUnmappable .. => "Resource directory RVA could not be mapped or is truncated."
  | resourceCycle .. => "Resource directory revisited; branch skipped."
  | resourceTooDeep limit _ => s!"Resource tree deeper than max_depth={limit}."
  | resourceDirectoryOutside .. => "Resource directory out of bounds."
  | tooManyResourceNodes limit => s!"Resource nodes exceeded max_nodes={limit}."
  | resourceEntryOutside .. => "Resource directory entry out of bounds."
  | resourceLeafAboveLanguage .. => "Resource data entry found above the language level."
  | resourceDataEntryOutside .. => "Resource data entry out of bounds."
  | resourceDataUnmappable .. => "Resource data RVA could not be mapped."
  | versionInfoTooLarge _ limit => s!"VersionInfo size exceeds max_size={limit}."
  | resourceDataTruncated .. => "Resource data extends beyond file."
  | versionRootUnreadable => "Failed to parse VS_VERSIONINFO root."
  | versionRootKey .. => "Root key is not VS_VERSION_INFO."
  | versionTooDeep .. => "VersionInfo nesting too deep."
  | debugUnmappable .. => "Debug directory RVA could not be mapped."
  | debugDirectoryTruncated .. => "Debug directory truncated."
  | richSearchClamped limit _ =>
    s!"No Rich marker within max_rich_search={limit} bytes of the DOS header."
  | securityOutside .. => "Security directory lies outside the file."
  | securityTruncated .. => "Security directory extends beyond end of file."
  | tooManyCertificates limit => s!"Certificate entries exceeded max_certificates={limit}."
  | badCertificateEntry .. => "WIN_CERTIFICATE length invalid."
  | signatureTooDeep limit => s!"Nested signatures deeper than max_depth={limit}."
  | signatureNotDer => "Signature blob is not a DER structure."
  | certificatesUnreadable fault => "PKCS#7 certificates unreadable: " ++ fault.name
  | notSignedData .. => "PKCS#7 content is not SignedData."
  | signerInfoUnreadable => "SignedData signer information could not be decoded."
  | signerCertificateMissing => "Signer certificate not present in SignedData."
  | countersignerCertificateMissing => "Countersigner certificate not present in SignedData."
  | countersignatureUnreadable => "Countersignature could not be decoded."
  | certificateFieldsUnreadable => "Certificate fields unreadable: ValueError"

/-- What a problem says about the buffer. -/
def kind : Problem → ProblemKind
  | noDosSignature => .notPe
  | newHeaderOutside .. => .notPe
  | badNtSignature .. => .notPe
  | coffTruncated .. => .notPe
  | optionalMissing .. => .notPe
  | optionalTruncated .. => .notPe
  | badMagic .. => .ambiguousLayout
  | wideLayoutOnNarrowMachine .. => .ambiguousLayout
  | narrowLayoutOnWideMachine .. => .ambiguousLayout
  | _ => .malformedDirectory

/-- The numbers and names that a problem is about. -/
def details : Problem → List (String × Value)
  | newHeaderOutside eLfanew => [("e_lfanew", .nat eLfanew)]
  | badNtSignature eLfanew => [("e_lfanew", .nat eLfanew)]
  | coffTruncated offset => [("coff_off", .nat offset)]
  | optionalMissing offset => [("opt_off", .nat offset)]
  | optionalTruncated offset layout => [("opt_off", .nat offset), ("layout", .text layout)]
  | badMagic magic => [("opt_magic", .nat magic)]
  | wideLayoutOnNarrowMachine machine magic =>
    [("machine", .nat machine), ("opt_magic", .nat magic)]
  | narrowLayoutOnWideMachine machine magic =>
    [("machine", .nat machine), ("opt_magic", .nat magic)]
  | optionalSizeExceedsFile offset size =>
    [("opt_off", .nat offset), ("size_of_optional_header", .nat size)]
  | sectionCountClamped count limit =>
    [("number_of_sections", .nat count), ("max_sections", .int limit)]
  | sectionHeaderTruncated index offset =>
    [("section_index", .nat index), ("sh_off", .nat offset)]
  | importsUnmappable rva => [("import_rva", .nat rva)]
  | tooManyDlls limit => [("max_dlls", .int limit)]
  | importDescriptorTruncated offset => [("desc_off", .nat offset)]
  | dllNameUnreadable rva => [("name_rva", .nat rva)]
  | thunksUnmappable rva dll => [("thunk_rva", .nat rva), ("dll", .text dll)]
  | tooManyFunctions dll _ => [("dll", .text dll)]
  | thunksTruncated dll offset => [("dll", .text dll), ("thunk_off", .nat offset)]
  | importNameUnreadable dll rva => [("dll", .text dll), ("ibn_rva", .nat rva)]
  | exportsUnmappable rva => [("export_rva", .nat rva)]
  | exportDirectoryTruncated offset => [("export_off", .nat offset)]
  | exportDllNameUnreadable rva => [("name_rva", .nat rva)]
  | tooManyExportedFunctions count _ => [("num_funcs", .nat count)]
  | exportAddressesUnmappable rva => [("addr_funcs_rva", .nat rva)]
  | exportAddressesTruncated index => [("index", .nat index)]
  | tooManyExportedNames count _ => [("num_names", .nat count)]
  | exportNamesUnmappable namesRva ordinalsRva =>
    [("addr_names_rva", .nat namesRva), ("addr_ord_rva", .nat ordinalsRva)]
  | exportNamesTruncated index => [("index", .nat index)]
  | exportNameUnreadable rva => [("name_rva", .nat rva)]
  | resourcesUnmappable rva => [("resource_rva", .nat rva)]
  | resourceCycle directory => [("dir_rel", .nat directory)]
  | resourceTooDeep _ directory => [("dir_rel", .nat directory)]
  | resourceDirectoryOutside directory => [("dir_rel", .nat directory)]
  | tooManyResourceNodes limit => [("max_nodes", .int limit)]
  | resourceEntryOutside directory index => [("dir_rel", .nat directory), ("index", .nat index)]
  | resourceLeafAboveLanguage directory level =>
    [("dir_rel", .nat directory), ("level", .nat level)]
  | resourceDataEntryOutside entry => [("data_rel", .nat entry)]
  | resourceDataUnmappable rva => [("data_rva", .nat rva)]
  | versionInfoTooLarge size limit => [("data_size", .nat size), ("max_size", .int limit)]
  | resourceDataTruncated offset size => [("data_off", .nat offset), ("data_size", .int size)]
  | versionRootKey key => [("root_key", .text key)]
  | versionTooDeep depth => [("depth", .nat depth)]
  | debugUnmappable rva => [("debug_rva", .nat rva)]
  | debugDirectoryTruncated index => [("index", .nat index)]
  | richSearchClamped _ eLfanew => [("e_lfanew", .int eLfanew)]
  | securityOutside offset size =>
    [("security_offset", .int offset), ("security_size", .int size)]
  | securityTruncated offset => [("security_offset", .nat offset)]
  | badCertificateEntry offset length =>
    [("entry_offset", .nat offset), ("dw_length", .nat length)]
  | notSignedData contentType => [("content_type", .text contentType)]
  | _ => []

/-- The record of a finding: its code, message and kind, then its details. A detail that bears one
of those three names takes that place. -/
def entryOf (code message kind : String) (details : List (String × Value)) : Value :=
  .record (Value.assignAll
    [("code", .text code), ("message", .text message), ("kind", .text kind)] details)

/-- The record of a problem in reports. -/
def record (p : Problem) : Value := entryOf p.code p.message p.kind.name p.details

end Problem

end PeFacts
