import PeFacts.Digest
import PeFacts.Import

/-!
# Import hash

The import hash identifies what a program imports: the MD5 digest of the tokens `dll.function`
joined by commas, in import order. Names are hashed in lower case, a library's usual extension is
dropped, and the Winsock libraries' ordinals count as the names they stand for.
-/

namespace PeFacts.Imphash

/-- Extensions that do not count. -/
def droppedExtensions : List String := ["dll", "ocx", "sys"]

/-- The names of the Winsock functions that are imported by ordinal. -/
def winsockNames : List (Nat × String) := [
  (1, "accept"), (2, "bind"), (3, "closesocket"), (4, "connect"), (5, "getpeername"),
  (6, "getsockname"), (7, "getsockopt"), (8, "htonl"), (9, "htons"), (10, "ioctlsocket"),
  (11, "inet_addr"), (12, "inet_ntoa"), (13, "listen"), (14, "ntohl"), (15, "ntohs"),
  (16, "recv"), (17, "recvfrom"), (18, "select"), (19, "send"), (20, "sendto"),
  (21, "setsockopt"), (22, "shutdown"), (23, "socket"), (51, "gethostbyaddr"),
  (52, "gethostbyname"), (53, "getprotobyname"), (54, "getprotobynumber"),
  (55, "getservbyname"), (56, "getservbyport"), (57, "gethostname"), (101, "WSAAsyncSelect"),
  (102, "WSAAsyncGetHostByAddr"), (103, "WSAAsyncGetHostByName"),
  (104, "WSAAsyncGetProtoByNumber"), (105, "WSAAsyncGetProtoByName"),
  (106, "WSAAsyncGetServByPort"), (107, "WSAAsyncGetServByName"),
  (108, "WSACancelAsyncRequest"), (109, "WSASetBlockingHook"), (110, "WSAUnhookBlockingHook"),
  (111, "WSAGetLastError"), (112, "WSASetLastError"), (113, "WSACancelBlockingCall"),
  (114, "WSAIsBlocking"), (115, "WSAStartup"), (116, "WSACleanup"), (151, "__WSAFDIsSet"),
  (500, "WEP")]

/-- Libraries whose ordinals are known, by their names without extension. -/
def winsockLibraries : List String := ["ws2_32", "wsock32"]

/-- The name that an ordinal of a library stands for. -/
def ordinalName? (library : String) (ordinal : Int) : Option String :=
  if winsockLibraries.contains library then
    (winsockNames.find? fun e => (e.1 : Int) == ordinal).map (·.2)
  else none

/-- Splits at the last dot: what stands before it, without the dot, and what stands after it. -/
def splitExtension? (name : List Char) : Option (List Char × List Char) :=
  let extension := name.reverse.takeWhile (· != '.')
  match name.reverse.dropWhile (· != '.') with
  | [] => none
  | _ :: stem => some (stem.reverse, extension.reverse)

/-- The name of a library in lower case without a usual extension. -/
def libraryName (dll : String) : String :=
  let name := lowerText dll
  match splitExtension? name.toList with
  | some (stem, extension) =>
    if droppedExtensions.contains (String.ofList extension) then String.ofList stem else name
  | none => name

/-- What stands for a function in the hashed text. -/
def functionName? (library : String) (f : ImportedFunction) : Option String :=
  match f.name?, f.ordinal? with
  | some name, _ => some (lowerText name)
  | none, none => none
  | none, some n =>
    match ordinalName? library n with
    | some name => some (lowerText name)
    | none => some s!"ord{n}"

/-- The tokens of one DLL. -/
def dllTokens (d : ImportedDll) : List String :=
  let library := libraryName d.name
  d.functions.filterMap fun f => (functionName? library f).map fun name => s!"{library}.{name}"

/-- The tokens of all DLLs, in import order. -/
def tokens (dlls : List ImportedDll) : List String := dlls.flatMap dllTokens

/-- ASCII bytes of a text; a question mark stands for any other character. -/
def asciiBytes (s : String) : Bytes :=
  (s.toList.map fun c => if c.toNat < 128 then c.toNat.toUInt8 else 63).toArray

/-- The import hash. Without imports it is the digest of the empty text. -/
def digest (dlls : List ImportedDll) : String :=
  Digest.md5 (asciiBytes (",".intercalate (tokens dlls)))

end PeFacts.Imphash
