/-!
# Named numbers of the format

Machine types, subsystems, characteristics, data directories and resource types, with the names
under which rules refer to them. `constants` is the whole list, `machineName?` and
`subsystemName?` read parts of it backwards.
-/

namespace PeFacts

/-- Named numbers of one family, whose public names begin with a common word. -/
structure NumberFamily where
  stem : String
  members : List (String × Nat)

/-- A member's number under its public name. -/
def NumberFamily.named (family : NumberFamily) : List (String × Nat) :=
  family.members.map fun m => (family.stem ++ m.1, m.2)

/-- The last name that a family gives to a number. -/
def NumberFamily.nameOf? (family : NumberFamily) (n : Nat) : Option String :=
  (family.members.reverse.find? (·.2 == n)).map (·.1)

namespace Constants

def machines : NumberFamily where
  stem := "MACHINE_"
  members := [
    ("UNKNOWN", 0x0), ("AM33", 0x1D3), ("AMD64", 0x8664), ("ARM", 0x1C0), ("ARMNT", 0x1C4),
    ("ARM64", 0xAA64), ("EBC", 0xEBC), ("I386", 0x14C), ("IA64", 0x200), ("LOONGARCH32", 0x6232),
    ("LOONGARCH64", 0x6264), ("M32R", 0x9041), ("MIPS16", 0x266), ("MIPSFPU", 0x366),
    ("MIPSFPU16", 0x466), ("POWERPC", 0x1F0), ("POWERPCFP", 0x1F1), ("R4000", 0x166),
    ("RISCV32", 0x5032), ("RISCV64", 0x5064), ("SH3", 0x1A2), ("SH3DSP", 0x1A3), ("SH4", 0x1A6),
    ("SH5", 0x1A8), ("THUMB", 0x1C2), ("WCEMIPSV2", 0x169)]

def subsystems : NumberFamily where
  stem := "SUBSYSTEM_"
  members := [
    ("UNKNOWN", 0), ("NATIVE", 1), ("WINDOWS_GUI", 2), ("WINDOWS_CUI", 3), ("OS2_CUI", 5),
    ("POSIX_CUI", 7), ("NATIVE_WINDOWS", 8), ("WINDOWS_CE_GUI", 9), ("EFI_APPLICATION", 10),
    ("EFI_BOOT_SERVICE_DRIVER", 11), ("EFI_RUNTIME_DRIVER", 12), ("EFI_ROM_IMAGE", 13),
    ("XBOX", 14), ("WINDOWS_BOOT_APPLICATION", 16)]

/-- File characteristics of the COFF header. -/
def fileCharacteristics : NumberFamily where
  stem := ""
  members := [
    ("RELOCS_STRIPPED", 0x0001), ("EXECUTABLE_IMAGE", 0x0002), ("LINE_NUMS_STRIPPED", 0x0004),
    ("LOCAL_SYMS_STRIPPED", 0x0008), ("AGGRESIVE_WS_TRIM", 0x0010),
    ("LARGE_ADDRESS_AWARE", 0x0020), ("BYTES_REVERSED_LO", 0x0080), ("MACHINE_32BIT", 0x0100),
    ("DEBUG_STRIPPED", 0x0200), ("REMOVABLE_RUN_FROM_SWAP", 0x0400), ("NET_RUN_FROM_SWAP", 0x0800),
    ("SYSTEM", 0x1000), ("DLL", 0x2000), ("UP_SYSTEM_ONLY", 0x4000), ("BYTES_REVERSED_HI", 0x8000)]

/-- DLL characteristics of the optional header. -/
def dllCharacteristics : NumberFamily where
  stem := ""
  members := [
    ("HIGH_ENTROPY_VA", 0x0020), ("DYNAMIC_BASE", 0x0040), ("FORCE_INTEGRITY", 0x0080),
    ("NX_COMPAT", 0x0100), ("NO_ISOLATION", 0x0200), ("NO_SEH", 0x0400), ("NO_BIND", 0x0800),
    ("APPCONTAINER", 0x1000), ("WDM_DRIVER", 0x2000), ("GUARD_CF", 0x4000),
    ("TERMINAL_SERVER_AWARE", 0x8000)]

def sectionCharacteristics : NumberFamily where
  stem := "SECTION_"
  members := [
    ("CNT_CODE", 0x00000020), ("CNT_INITIALIZED_DATA", 0x00000040),
    ("CNT_UNINITIALIZED_DATA", 0x00000080), ("LNK_INFO", 0x00000200), ("LNK_REMOVE", 0x00000800),
    ("LNK_COMDAT", 0x00001000), ("GPREL", 0x00008000), ("LNK_NRELOC_OVFL", 0x01000000),
    ("MEM_DISCARDABLE", 0x02000000), ("MEM_NOT_CACHED", 0x04000000),
    ("MEM_NOT_PAGED", 0x08000000), ("MEM_SHARED", 0x10000000), ("MEM_EXECUTE", 0x20000000),
    ("MEM_READ", 0x40000000), ("MEM_WRITE", 0x80000000)]

/-- Indices of the data directories. -/
def directories : NumberFamily where
  stem := "IMAGE_DIRECTORY_ENTRY_"
  members := [
    ("EXPORT", 0), ("IMPORT", 1), ("RESOURCE", 2), ("EXCEPTION", 3), ("SECURITY", 4),
    ("BASERELOC", 5), ("DEBUG", 6), ("ARCHITECTURE", 7), ("GLOBALPTR", 8), ("TLS", 9),
    ("LOAD_CONFIG", 10), ("BOUND_IMPORT", 11), ("IAT", 12), ("DELAY_IMPORT", 13),
    ("COM_DESCRIPTOR", 14)]

def resourceTypes : NumberFamily where
  stem := "RESOURCE_TYPE_"
  members := [
    ("CURSOR", 1), ("BITMAP", 2), ("ICON", 3), ("MENU", 4), ("DIALOG", 5), ("STRING", 6),
    ("FONTDIR", 7), ("FONT", 8), ("ACCELERATOR", 9), ("RCDATA", 10), ("MESSAGETABLE", 11),
    ("GROUP_CURSOR", 12), ("GROUP_ICON", 14), ("VERSION", 16), ("DLGINCLUDE", 17),
    ("PLUGPLAY", 19), ("VXD", 20), ("ANICURSOR", 21), ("ANIICON", 22), ("HTML", 23),
    ("MANIFEST", 24)]

end Constants

open Constants

/-- Every named number an image offers to rules. -/
def constants : List (String × Nat) :=
  [machines, subsystems, fileCharacteristics, dllCharacteristics, sectionCharacteristics,
    directories, resourceTypes].flatMap NumberFamily.named

/-- The numbers of the format itself, under the names of its documentation. -/
def formatNumbers : List (String × Nat) :=
  NumberFamily.named ⟨"DIR_", directories.members⟩ ++
    NumberFamily.named ⟨"RT_", resourceTypes.members⟩ ++
    [("IMAGE_DEBUG_TYPE_CODEVIEW", 2), ("IMAGE_NUMBEROF_DIRECTORY_ENTRIES", 16),
      ("PE32_MAGIC", 0x10B), ("PE32P_MAGIC", 0x20B), ("ROM_MAGIC", 0x107),
      ("WIN_CERT_REVISION_1_0", 0x0100), ("WIN_CERT_REVISION_2_0", 0x0200),
      ("WIN_CERT_TYPE_X509", 1), ("WIN_CERT_TYPE_PKCS_SIGNED_DATA", 2),
      ("WIN_CERT_TYPE_TS_STACK_SIGNED", 4)]

/-- The number called `name`. -/
def constant? (name : String) : Option Nat := (constants.find? (·.1 == name)).map (·.2)

/-- The name of a machine type. -/
def machineName? (n : Nat) : Option String := machines.nameOf? n

/-- The name of a subsystem. -/
def subsystemName? (n : Nat) : Option String := subsystems.nameOf? n

/-- Machine types whose programs use 64-bit addresses. -/
def machines64 : List Nat := [0x8664, 0xAA64, 0x200, 0x5064, 0x6264]

/-- The file characteristic that marks a DLL. -/
def dllFlag : Nat := 0x2000

/-- The machine type of 32-bit x86. -/
def machineI386 : Nat := 0x14C

/-- The places of the data directories that are read. -/
def exportDirectory : Nat := 0
def importDirectory : Nat := 1
def resourceDirectory : Nat := 2
def securityDirectory : Nat := 4
def debugDirectory : Nat := 6

/-- The resource type of version information. -/
def versionResource : Nat := 16

end PeFacts
