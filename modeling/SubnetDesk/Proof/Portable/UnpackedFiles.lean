import SubnetDesk.Construction.Portable.Package

namespace SubnetDesk.Portable

open FileTree
open FileTransfer (components push Component)

/-- Every file is below the destination at its relative path with its contents, the executable is one
of them, and nothing else is changed. -/
structure Unpacked (files : List (Path × Bytes)) (tree : Tree) (dir : Path)
    (outcome : Tree × Option Path) : Prop where
  contents : ∀ file ∈ files, outcome.1.fileBytes (push dir (replaceBackslash file.1)) = some file.2
  executable : ∃ exe, outcome.2 = some exe ∧ ∃ file ∈ files,
    outcome.1.resolve true exe = outcome.1.resolve true (push dir (replaceBackslash file.1))
  outside : ∀ root, tree.resolve true dir = .ok root → ∀ place, ¬ root <+: place →
    outcome.1.node place = tree.node place ∧
      ∀ inode, tree.node place = some (.file inode) → outcome.1.data inode = tree.data inode

def Record.binaryData (record : Record) : BinaryData where
  md5Code := Utf8.encode record.md5Code
  raw := record.compressedData
  path := record.path

section Walk

variable (separator : Char)

/-- A path below a root. -/
def Below (root path : Path) : Prop := ∃ rest, path = root ++ separator :: rest

variable {separator}

theorem Below.trans {root path : Path} {name : Segment}
    (below : Below separator (joinName separator root name) path) : Below separator root path := by
  obtain ⟨rest, rfl⟩ := below
  refine ⟨name ++ separator :: rest, ?_⟩
  rw [joinName, List.append_assoc, List.cons_append]

/-- The files of a folder lie below it. -/
theorem filesIn_below (root : Path) (entries : List Entry) (file : Path × Bytes)
    (member : file ∈ filesIn separator root entries) : Below separator root file.1 := by
  rw [filesIn, List.mem_filterMap] at member
  obtain ⟨entry, -, found⟩ := member
  cases entry with
  | file name content =>
      obtain rfl := Option.some.inj found
      exact ⟨name, rfl⟩
  | folder name entries => cases found

mutual

/-- The files of an entry lie below it. -/
theorem walkFolder_below (root : Path) (entry : Entry) (file : Path × Bytes)
    (member : file ∈ walkFolder separator root entry) : Below separator root file.1 := by
  cases entry with
  | file name content =>
      rw [walkFolder] at member
      cases member
  | folder name entries =>
      rw [walkFolder, List.mem_append] at member
      obtain member | member := member
      · exact (filesIn_below _ entries file member).trans
      · exact (walkFolders_below _ entries file member).trans

theorem walkFolders_below (root : Path) (entries : List Entry) (file : Path × Bytes)
    (member : file ∈ walkFolders separator root entries) : Below separator root file.1 := by
  cases entries with
  | nil =>
      rw [walkFolders] at member
      cases member
  | cons entry rest =>
      rw [walkFolders, List.mem_append] at member
      obtain member | member := member
      · exact walkFolder_below root entry file member
      · exact walkFolders_below root rest file member

end

/-- Every path of the walk starts with the folder that was walked. -/
theorem walk_below (root : Path) (entries : List Entry) (file : Path × Bytes)
    (member : file ∈ walk separator root entries) : Below separator root file.1 := by
  rw [walk, List.mem_append] at member
  obtain member | member := member
  · exact filesIn_below root entries file member
  · exact walkFolders_below root entries file member

theorem mem_insertKey {record other : Record} {table : List Record}
    (member : other ∈ insertKey record table) : other = record ∨ other ∈ table := by
  induction table with
  | nil => exact .inl (List.mem_singleton.mp member)
  | cons first rest ih =>
      unfold insertKey at member
      split at member
      next =>
        obtain rfl | later := List.mem_cons.mp member
        · exact .inl rfl
        · exact .inr (List.mem_cons_of_mem _ later)
      next =>
        obtain rfl | later := List.mem_cons.mp member
        · exact .inr List.mem_cons_self
        · obtain same | before := ih later
          · exact .inl same
          · exact .inr (List.mem_cons_of_mem _ before)

theorem insertKey_ne_nil (record : Record) (table : List Record) : insertKey record table ≠ [] := by
  cases table with
  | nil => exact List.cons_ne_nil _ _
  | cons first rest =>
      unfold insertKey
      split <;> exact List.cons_ne_nil _ _

/-- A record of the table is a file of the walk. -/
theorem mem_generateMd5Table {codec : Codec} {entries : List Entry} {record : Record}
    (member : record ∈ generateMd5Table codec separator entries) :
    ∃ file ∈ walk separator dot entries,
      record = ⟨file.1, codec.compress file.2, codec.md5 file.2⟩ := by
  have general (files : List (Path × Bytes)) (table : List Record)
      (found : record ∈ files.foldl
        (fun res file => insertKey ⟨file.1, codec.compress file.2, codec.md5 file.2⟩ res) table) :
      record ∈ table ∨ ∃ file ∈ files,
        record = ⟨file.1, codec.compress file.2, codec.md5 file.2⟩ := by
    induction files generalizing table with
    | nil => exact .inl found
    | cons file rest ih =>
        obtain before | ⟨later, member, same⟩ := ih _ found
        · obtain same | before := mem_insertKey before
          · exact .inr ⟨file, List.mem_cons_self, same⟩
          · exact .inl before
        · exact .inr ⟨later, List.mem_cons_of_mem _ member, same⟩
  obtain none_ | found := general _ _ member
  · cases none_
  · exact found

/-- A folder with a file has a record. -/
theorem generateMd5Table_ne_nil (codec : Codec) {entries : List Entry}
    (filled : walk separator dot entries ≠ []) : generateMd5Table codec separator entries ≠ [] := by
  have general (files : List (Path × Bytes)) (table : List Record) (some_ : files ≠ [] ∨ table ≠ []) :
      files.foldl (fun res file =>
        insertKey ⟨file.1, codec.compress file.2, codec.md5 file.2⟩ res) table ≠ [] := by
    induction files generalizing table with
    | nil => exact some_.resolve_left fun none_ => none_ rfl
    | cons file rest ih => exact ih _ (.inr (insertKey_ne_nil _ _))
  exact general _ _ (.inl filled)

end Walk

section Read

/-- A record that the packer can write and the reader tells from the end. -/
structure Plain (record : Record) : Prop where
  path : ∃ rest, record.path = '.' :: rest
  md5Code : (Utf8.encode record.md5Code).length = md5Length

/-- A length has its own number of bytes. -/
theorem toBytes_some {value : Nat} {bytes : Bytes} (written : toBytes value = some bytes) :
    bytes.length = lengthCount ∧ fromBeBytes bytes = value := by
  unfold toBytes at written
  split at written
  next small =>
    obtain rfl := Option.some.inj written
    refine ⟨by rw [List.length_reverse, Bytes.length_le], ?_⟩
    rw [fromBeBytes, List.reverse_reverse, Bytes.ofLe_le_of_lt small]
  next => cases written

/-- A record is a path, data, and a digest. -/
theorem writeRecord_some {record : Record} {bytes : Bytes} (written : writeRecord record = some bytes) :
    ∃ pathLength dataLength, bytes = pathLength ++ (Utf8.encode record.path ++ (dataLength ++
        (record.compressedData ++ Utf8.encode record.md5Code))) ∧
      pathLength.length = lengthCount ∧
      fromBeBytes pathLength = (Utf8.encode record.path).length ∧
      dataLength.length = lengthCount ∧ fromBeBytes dataLength = record.compressedData.length := by
  unfold writeRecord at written
  split at written
  next pathLength dataLength first second =>
    obtain rfl := Option.some.inj written
    obtain ⟨width, value⟩ := toBytes_some first
    obtain ⟨width_, value_⟩ := toBytes_some second
    refine ⟨pathLength, dataLength, ?_, width, value, width_, value_⟩
    simp only [List.append_assoc]
  next => cases written

/-- The reader reads a written record back. -/
theorem readRecord_write {record : Record} {bytes : Bytes} (plain : Plain record)
    (written : writeRecord record = some bytes) (rest : Bytes) :
    readRecord (bytes ++ rest) = some (record.binaryData, rest) := by
  obtain ⟨pathLength, dataLength, rfl, width, value, width_, value_⟩ := writeRecord_some written
  simp only [readRecord, List.append_assoc]
  rw [Bytes.split_append width]
  dsimp only
  rw [Bytes.split_append value.symm]
  dsimp only
  rw [Bytes.split_append width_]
  dsimp only
  rw [Bytes.split_append value_.symm]
  dsimp only
  rw [Bytes.split_append plain.md5Code]
  dsimp only
  rw [Utf8.lossy_encode]
  rfl

theorem encode_identifier : Utf8.encode identifier = [114, 117, 115, 116, 100, 101, 115, 107] := by
  decide +kernel

/-- A replaced letter ends no package. -/
theorem replacement_not_identifier : Utf8.replacement ∉ identifier := by
  decide +kernel

/-- The fifth byte of a record is the dot that its path starts with. -/
theorem write_not_identifier {record : Record} {bytes : Bytes} (plain : Plain record)
    (written : writeRecord record = some bytes) (rest : Bytes) :
    identifierLength ≤ (bytes ++ rest).length ∧
      Utf8.lossy ((bytes ++ rest).take identifierLength) ≠ identifier := by
  obtain ⟨pathLength, dataLength, rfl, width, -, width_, -⟩ := writeRecord_some written
  obtain ⟨path, dotted⟩ := plain.path
  have first : Utf8.encode record.path = 46 :: Utf8.encode path := by
    rw [dotted]
    rfl
  rw [first]
  simp only [lengthCount] at width width_
  constructor
  · simp only [List.length_append, List.length_cons, identifierLength]
    omega
  · rw [ne_eq, Utf8.lossy_eq_iff replacement_not_identifier, encode_identifier]
    intro same
    have fifth := congrArg (·[4]?) same
    simp only [List.append_assoc, List.cons_append] at fifth
    rw [List.getElem?_take_of_lt (by decide), List.getElem?_append_right (by omega), width] at fifth
    exact absurd fifth (by simp)

/-- The end marker ends the records. -/
theorem readRecords_end (rest : Bytes) :
    readRecords (Utf8.encode identifier ++ rest) = some ([], rest) := by
  rw [readRecords, Bytes.split_append (by rw [encode_identifier]; rfl)]
  dsimp only
  rw [Utf8.lossy_encode, if_pos rfl]

/-- Written records are read back. -/
theorem readRecords_write {table : List Record} {bytes : Bytes} (plain : ∀ record ∈ table, Plain record)
    (written : writeRecords table = some bytes) (rest : Bytes) :
    readRecords (bytes ++ (Utf8.encode identifier ++ rest)) =
      some (table.map Record.binaryData, rest) := by
  induction table generalizing bytes with
  | nil =>
      obtain rfl := Option.some.inj written
      exact readRecords_end rest
  | cons record later ih =>
      rw [List.forall_mem_cons] at plain
      unfold writeRecords at written
      split at written
      next first second one two =>
        obtain rfl := Option.some.inj written
        rw [List.append_assoc]
        obtain ⟨enough, other⟩ :=
          write_not_identifier plain.1 one (second ++ (Utf8.encode identifier ++ rest))
        rw [readRecords, Bytes.split_of_le enough]
        dsimp only
        rw [if_neg other]
        split
        next none_ =>
          rw [readRecord_write plain.1 one] at none_
          cases none_
        next data left found =>
          rw [readRecord_write plain.1 one] at found
          obtain ⟨rfl, rfl⟩ := Prod.mk.inj (Option.some.inj found)
          rw [ih plain.2 two]
          rfl
      next => cases written

/-- The reader returns the packed records in order, and the executable. -/
theorem readBinary_write {table : List Record} {exe : Path} {bin : Bytes}
    (plain : ∀ record ∈ table, Plain record) (written : writePackageMetadata table exe = some bin) :
    readBinary bin = some ⟨table.map Record.binaryData, exe⟩ := by
  rw [writePackageMetadata, Option.map_eq_some_iff] at written
  obtain ⟨records, written, rfl⟩ := written
  have length : (Utf8.encode identifier).length = identifierLength := by
    rw [encode_identifier]
    rfl
  simp only [List.append_assoc]
  rw [readBinary, if_neg, if_neg, List.drop_left' length, readRecords_write plain written]
  · dsimp only
    rw [Utf8.lossy_encode]
  · rw [List.take_left' length, Utf8.lossy_encode, ne_eq, not_not]
  · simp only [List.length_append, length, identifierLength]
    omega

end Read

section Setup

variable {codec : Codec} {separator : Char} {entries : List Entry}

/-- Every generated record is plain. -/
theorem generate_plain (record : Record) (member : record ∈ generateMd5Table codec separator entries) :
    Plain record := by
  obtain ⟨file, found, rfl⟩ := mem_generateMd5Table member
  obtain ⟨rest, path⟩ := walk_below dot entries file found
  exact ⟨⟨separator :: rest, path⟩, codec.digits file.2⟩

/-- A leading dot is a component that is not normal. -/
theorem components_dot (rest : Path) : .curDir ∈ components ('.' :: '/' :: rest) := by
  have first : (('.' :: '/' :: rest).splitOn '/').head? = some dot := by
    simp [List.splitOn, List.splitOnP_cons_eq_if_modifyHead, dot]
  rw [components, if_neg (by simp), if_pos first]
  exact List.mem_append_left _ List.mem_cons_self

/-- Every path that the packer writes is refused. -/
theorem writeToFile_refused (isSeparator : separator = '/' ∨ separator = '\\') (record : Record)
    (member : record ∈ generateMd5Table codec separator entries) (tree : Tree) (dir : Path) :
    record.binaryData.writeToFile codec tree dir = (.error .invalidData, tree) := by
  obtain ⟨file, found, rfl⟩ := mem_generateMd5Table member
  obtain ⟨rest, path⟩ := walk_below dot entries file found
  have normalized : replaceBackslash file.1 = '.' :: '/' :: replaceBackslash rest := by
    rw [path]
    obtain rfl | rfl := isSeparator <;> rfl
  have refused : (components (replaceBackslash file.1)).any (!Component.isNormal ·) = true := by
    rw [normalized, List.any_eq_true]
    exact ⟨.curDir, components_dot _, rfl⟩
  unfold BinaryData.writeToFile Record.binaryData
  dsimp only
  rw [refused, Bool.true_or, if_pos rfl]

/-- The setup of a package with a file fails and changes nothing. -/
theorem setup_refused (isSeparator : separator = '/' ∨ separator = '\\')
    (filled : walk separator dot entries ≠ []) (tree : Tree) (exe dir : Path)
    (timestamp : Option Bytes) :
    setup codec tree
      ⟨(generateMd5Table codec separator entries).map Record.binaryData, exe⟩ dir timestamp =
        (tree, none) := by
  obtain ⟨record, rest, table⟩ :=
    List.exists_cons_of_ne_nil (generateMd5Table_ne_nil codec filled)
  have member : record ∈ generateMd5Table codec separator entries := by
    rw [table]
    exact List.mem_cons_self
  rw [setup, table]
  dsimp only
  rw [List.map_cons, writeFiles, writeToFile_refused isSeparator record member]

/-- No folder is unpacked. -/
theorem not_unpacked (isSeparator : separator = '/' ∨ separator = '\\') (tree : Tree)
    (exe dir : Path) (timestamp : Option Bytes) :
    ¬ Unpacked (walk separator dot entries) tree dir (setup codec tree
      ⟨(generateMd5Table codec separator entries).map Record.binaryData, exe⟩ dir timestamp) := by
  intro unpacked
  obtain ⟨path, returned, file, member, -⟩ := unpacked.executable
  rw [setup_refused isSeparator (List.ne_nil_of_mem member)] at returned
  cases returned

end Setup

/-- The reader returns what was packed, but no folder is unpacked. A folder with a file fails at its
first file, and nothing is written. -/
theorem packages_never_unpacked (codec : Codec) (separator : Char)
    (isSeparator : separator = '/' ∨ separator = '\\') (entries : List Entry) (exe : Path)
    (bin : Bytes)
    (packed : writePackageMetadata (generateMd5Table codec separator entries) exe = some bin)
    (tree : Tree) (dir : Path) (timestamp : Option Bytes) :
    ∃ reader, readBinary bin = some reader ∧
      reader = ⟨(generateMd5Table codec separator entries).map Record.binaryData, exe⟩ ∧
      ¬ Unpacked (walk separator dot entries) tree dir (setup codec tree reader dir timestamp) ∧
      (walk separator dot entries ≠ [] → setup codec tree reader dir timestamp = (tree, none)) :=
  ⟨_, readBinary_write generate_plain packed, rfl, not_unpacked isSeparator tree exe dir timestamp,
    fun filled => setup_refused isSeparator filled tree exe dir timestamp⟩

/-- The compressed forms of no byte and of one byte, and a marked copy of anything else. -/
def packSample : Bytes → Bytes
  | [] => [0x3b]
  | [byte] => [0x0b, 0x00, 0x80, byte, 0x03]
  | first :: second :: rest => 0xff :: first :: second :: rest

def unpackSample : Bytes → Option Bytes
  | [0x3b] => some []
  | [0x0b, 0x00, 0x80, byte, 0x03] => some [byte]
  | 0xff :: content => some content
  | _ => none

theorem unpackSample_pack (content : Bytes) : unpackSample (packSample content) = some content := by
  cases content with
  | nil => rfl
  | cons first rest => cases rest <;> rfl

def sampleDigest (content : Bytes) : List Char :=
  if content = [0x31] then "c4ca4238a0b923820dcc509a6f75849b".toList
  else "d41d8cd98f00b204e9800998ecf8427e".toList

theorem sampleDigest_length (content : Bytes) :
    (Utf8.encode (sampleDigest content)).length = 32 := by
  unfold sampleDigest
  split <;> decide +kernel

/-- The compression and the digests of an empty file and of the text `1`. -/
def sampleCodec : Codec where
  compress := packSample
  decompress := unpackSample
  md5 := sampleDigest
  lossless := unpackSample_pack
  digits := sampleDigest_length

def emptyFile : List Entry := [.file ['a'] []]

/-- A folder with a file in front of another folder, which holds an empty one. -/
def sampleFolder : List Entry := [.file ['a'] [0x31], .folder ['d'] [.file ['b'] []]]

theorem emptyFile_packed :
    ∃ bin, writePackageMetadata (generateMd5Table sampleCodec '/' emptyFile) ['.', '/', 'a'] =
      some bin := by
  apply Option.isSome_iff_exists.mp
  decide +kernel

theorem sampleFolder_packed :
    ∃ bin, writePackageMetadata (generateMd5Table sampleCodec '/' sampleFolder) ['.', '/', 'a'] =
      some bin := by
  apply Option.isSome_iff_exists.mp
  decide +kernel

theorem folder_read_and_refused :
    (walk '/' dot sampleFolder).length = 2 ∧
    ∃ bin, writePackageMetadata (generateMd5Table sampleCodec '/' sampleFolder) ['.', '/', 'a'] =
        some bin ∧
      ∃ reader, readBinary bin = some reader ∧
        reader =
          ⟨(generateMd5Table sampleCodec '/' sampleFolder).map Record.binaryData, ['.', '/', 'a']⟩ ∧
        ¬ Unpacked (walk '/' dot sampleFolder) Tree.empty ['/', 'x']
          (setup sampleCodec Tree.empty reader ['/', 'x'] none) ∧
        (walk '/' dot sampleFolder ≠ [] →
          setup sampleCodec Tree.empty reader ['/', 'x'] none = (Tree.empty, none)) := by
  obtain ⟨bin, packed⟩ := sampleFolder_packed
  exact ⟨by decide +kernel, bin, packed, packages_never_unpacked sampleCodec '/' (.inl rfl)
    sampleFolder _ bin packed Tree.empty ['/', 'x'] none⟩

/-- A folder with one empty file is packed and read, and its setup fails. -/
theorem one_file_not_unpacked :
    ∃ bin reader,
      writePackageMetadata (generateMd5Table sampleCodec '/' emptyFile) ['.', '/', 'a'] = some bin ∧
      readBinary bin = some reader ∧
      (setup sampleCodec Tree.empty reader ['/', 'x'] none).2 = none ∧
      ¬ Unpacked (walk '/' dot emptyFile) Tree.empty ['/', 'x']
        (setup sampleCodec Tree.empty reader ['/', 'x'] none) := by
  obtain ⟨bin, packed⟩ := emptyFile_packed
  have filled : walk '/' dot emptyFile ≠ [] := by decide +kernel
  refine ⟨bin, _, packed, readBinary_write generate_plain packed, ?_, ?_⟩
  · rw [setup_refused (.inl rfl) filled]
  · exact not_unpacked (.inl rfl) Tree.empty _ _ none

end SubnetDesk.Portable
