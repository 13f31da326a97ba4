import Retrofit.Opcode.Kind

/-!
The instruction set: every operation code with its encoding, its mnemonic, the shape of its operand
and the way it passes control on.
-/

namespace Retrofit

/-- One CIL operation. The order is that of the encodings. -/
inductive Opcode where
  | nop | brk | ldarg0 | ldarg1 | ldarg2 | ldarg3 | ldloc0 | ldloc1 | ldloc2 | ldloc3 | stloc0
  | stloc1 | stloc2 | stloc3 | ldargS | ldargaS | stargS | ldlocS | ldlocaS | stlocS | ldnull
  | ldcI4M1 | ldcI40 | ldcI41 | ldcI42 | ldcI43 | ldcI44 | ldcI45 | ldcI46 | ldcI47 | ldcI48
  | ldcI4S | ldcI4 | ldcI8 | ldcR4 | ldcR8 | dup | pop | jmp | call | calli | ret | brS
  | brfalseS | brtrueS | beqS | bgeS | bgtS | bleS | bltS | bneUnS | bgeUnS | bgtUnS | bleUnS
  | bltUnS | br | brfalse | brtrue | beq | bge | bgt | ble | blt | bneUn | bgeUn | bgtUn
  | bleUn | bltUn | switch | ldindI1 | ldindU1 | ldindI2 | ldindU2 | ldindI4 | ldindU4
  | ldindI8 | ldindI | ldindR4 | ldindR8 | ldindRef | stindRef | stindI1 | stindI2 | stindI4
  | stindI8 | stindR4 | stindR8 | add | sub | mul | div | divUn | rem | remUn | and | or | xor
  | shl | shr | shrUn | neg | not | convI1 | convI2 | convI4 | convI8 | convR4 | convR8
  | convU4 | convU8 | callvirt | cpobj | ldobj | ldstr | newobj | castclass | isinst | convRUn
  | unbox | throw | ldfld | ldflda | stfld | ldsfld | ldsflda | stsfld | stobj | convOvfI1Un
  | convOvfI2Un | convOvfI4Un | convOvfI8Un | convOvfU1Un | convOvfU2Un | convOvfU4Un
  | convOvfU8Un | convOvfIUn | convOvfUUn | box | newarr | ldlen | ldelema | ldelemI1
  | ldelemU1 | ldelemI2 | ldelemU2 | ldelemI4 | ldelemU4 | ldelemI8 | ldelemI | ldelemR4
  | ldelemR8 | ldelemRef | stelemI | stelemI1 | stelemI2 | stelemI4 | stelemI8 | stelemR4
  | stelemR8 | stelemRef | ldelem | stelem | unboxAny | convOvfI1 | convOvfU1 | convOvfI2
  | convOvfU2 | convOvfI4 | convOvfU4 | convOvfI8 | convOvfU8 | refanyval | ckfinite | mkrefany
  | ldtoken | convU2 | convU1 | convI | convOvfI | convOvfU | addOvf | addOvfUn | mulOvf
  | mulOvfUn | subOvf | subOvfUn | endfinally | leave | leaveS | stindI | convU | arglist | ceq
  | cgt | cgtUn | clt | cltUn | ldftn | ldvirtftn | ldarg | ldarga | starg | ldloc | ldloca
  | stloc | localloc | endfilter | unaligned | volatile | tail | initobj | constrained | cpblk
  | initblk | no | rethrow | sizeof | refanytype | readonly
deriving DecidableEq

namespace Opcode

/-- What the instruction set fixes about one operation. -/
structure Info where
  encoding : UInt16
  mnemonic : String
  operandShape : OperandShape
  flow : Flow

def info : Opcode → Info
  | .nop => ⟨0x0000, "nop", .none, .sequential⟩
  | .brk => ⟨0x0001, "break", .none, .sequential⟩
  | .ldarg0 => ⟨0x0002, "ldarg.0", .none, .sequential⟩
  | .ldarg1 => ⟨0x0003, "ldarg.1", .none, .sequential⟩
  | .ldarg2 => ⟨0x0004, "ldarg.2", .none, .sequential⟩
  | .ldarg3 => ⟨0x0005, "ldarg.3", .none, .sequential⟩
  | .ldloc0 => ⟨0x0006, "ldloc.0", .none, .sequential⟩
  | .ldloc1 => ⟨0x0007, "ldloc.1", .none, .sequential⟩
  | .ldloc2 => ⟨0x0008, "ldloc.2", .none, .sequential⟩
  | .ldloc3 => ⟨0x0009, "ldloc.3", .none, .sequential⟩
  | .stloc0 => ⟨0x000A, "stloc.0", .none, .sequential⟩
  | .stloc1 => ⟨0x000B, "stloc.1", .none, .sequential⟩
  | .stloc2 => ⟨0x000C, "stloc.2", .none, .sequential⟩
  | .stloc3 => ⟨0x000D, "stloc.3", .none, .sequential⟩
  | .ldargS => ⟨0x000E, "ldarg.s", .shortArgumentSlot, .sequential⟩
  | .ldargaS => ⟨0x000F, "ldarga.s", .shortArgumentSlot, .sequential⟩
  | .stargS => ⟨0x0010, "starg.s", .shortArgumentSlot, .sequential⟩
  | .ldlocS => ⟨0x0011, "ldloc.s", .shortLocalSlot, .sequential⟩
  | .ldlocaS => ⟨0x0012, "ldloca.s", .shortLocalSlot, .sequential⟩
  | .stlocS => ⟨0x0013, "stloc.s", .shortLocalSlot, .sequential⟩
  | .ldnull => ⟨0x0014, "ldnull", .none, .sequential⟩
  | .ldcI4M1 => ⟨0x0015, "ldc.i4.m1", .none, .sequential⟩
  | .ldcI40 => ⟨0x0016, "ldc.i4.0", .none, .sequential⟩
  | .ldcI41 => ⟨0x0017, "ldc.i4.1", .none, .sequential⟩
  | .ldcI42 => ⟨0x0018, "ldc.i4.2", .none, .sequential⟩
  | .ldcI43 => ⟨0x0019, "ldc.i4.3", .none, .sequential⟩
  | .ldcI44 => ⟨0x001A, "ldc.i4.4", .none, .sequential⟩
  | .ldcI45 => ⟨0x001B, "ldc.i4.5", .none, .sequential⟩
  | .ldcI46 => ⟨0x001C, "ldc.i4.6", .none, .sequential⟩
  | .ldcI47 => ⟨0x001D, "ldc.i4.7", .none, .sequential⟩
  | .ldcI48 => ⟨0x001E, "ldc.i4.8", .none, .sequential⟩
  | .ldcI4S => ⟨0x001F, "ldc.i4.s", .int8, .sequential⟩
  | .ldcI4 => ⟨0x0020, "ldc.i4", .int32, .sequential⟩
  | .ldcI8 => ⟨0x0021, "ldc.i8", .int64, .sequential⟩
  | .ldcR4 => ⟨0x0022, "ldc.r4", .float32, .sequential⟩
  | .ldcR8 => ⟨0x0023, "ldc.r8", .float64, .sequential⟩
  | .dup => ⟨0x0025, "dup", .none, .sequential⟩
  | .pop => ⟨0x0026, "pop", .none, .sequential⟩
  | .jmp => ⟨0x0027, "jmp", .method, .call⟩
  | .call => ⟨0x0028, "call", .method, .call⟩
  | .calli => ⟨0x0029, "calli", .signature, .call⟩
  | .ret => ⟨0x002A, "ret", .none, .ret⟩
  | .brS => ⟨0x002B, "br.s", .shortBranch, .unconditionalBranch⟩
  | .brfalseS => ⟨0x002C, "brfalse.s", .shortBranch, .conditionalBranch⟩
  | .brtrueS => ⟨0x002D, "brtrue.s", .shortBranch, .conditionalBranch⟩
  | .beqS => ⟨0x002E, "beq.s", .shortBranch, .conditionalBranch⟩
  | .bgeS => ⟨0x002F, "bge.s", .shortBranch, .conditionalBranch⟩
  | .bgtS => ⟨0x0030, "bgt.s", .shortBranch, .conditionalBranch⟩
  | .bleS => ⟨0x0031, "ble.s", .shortBranch, .conditionalBranch⟩
  | .bltS => ⟨0x0032, "blt.s", .shortBranch, .conditionalBranch⟩
  | .bneUnS => ⟨0x0033, "bne.un.s", .shortBranch, .conditionalBranch⟩
  | .bgeUnS => ⟨0x0034, "bge.un.s", .shortBranch, .conditionalBranch⟩
  | .bgtUnS => ⟨0x0035, "bgt.un.s", .shortBranch, .conditionalBranch⟩
  | .bleUnS => ⟨0x0036, "ble.un.s", .shortBranch, .conditionalBranch⟩
  | .bltUnS => ⟨0x0037, "blt.un.s", .shortBranch, .conditionalBranch⟩
  | .br => ⟨0x0038, "br", .branch, .unconditionalBranch⟩
  | .brfalse => ⟨0x0039, "brfalse", .branch, .conditionalBranch⟩
  | .brtrue => ⟨0x003A, "brtrue", .branch, .conditionalBranch⟩
  | .beq => ⟨0x003B, "beq", .branch, .conditionalBranch⟩
  | .bge => ⟨0x003C, "bge", .branch, .conditionalBranch⟩
  | .bgt => ⟨0x003D, "bgt", .branch, .conditionalBranch⟩
  | .ble => ⟨0x003E, "ble", .branch, .conditionalBranch⟩
  | .blt => ⟨0x003F, "blt", .branch, .conditionalBranch⟩
  | .bneUn => ⟨0x0040, "bne.un", .branch, .conditionalBranch⟩
  | .bgeUn => ⟨0x0041, "bge.un", .branch, .conditionalBranch⟩
  | .bgtUn => ⟨0x0042, "bgt.un", .branch, .conditionalBranch⟩
  | .bleUn => ⟨0x0043, "ble.un", .branch, .conditionalBranch⟩
  | .bltUn => ⟨0x0044, "blt.un", .branch, .conditionalBranch⟩
  | .switch => ⟨0x0045, "switch", .switch, .switch⟩
  | .ldindI1 => ⟨0x0046, "ldind.i1", .none, .sequential⟩
  | .ldindU1 => ⟨0x0047, "ldind.u1", .none, .sequential⟩
  | .ldindI2 => ⟨0x0048, "ldind.i2", .none, .sequential⟩
  | .ldindU2 => ⟨0x0049, "ldind.u2", .none, .sequential⟩
  | .ldindI4 => ⟨0x004A, "ldind.i4", .none, .sequential⟩
  | .ldindU4 => ⟨0x004B, "ldind.u4", .none, .sequential⟩
  | .ldindI8 => ⟨0x004C, "ldind.i8", .none, .sequential⟩
  | .ldindI => ⟨0x004D, "ldind.i", .none, .sequential⟩
  | .ldindR4 => ⟨0x004E, "ldind.r4", .none, .sequential⟩
  | .ldindR8 => ⟨0x004F, "ldind.r8", .none, .sequential⟩
  | .ldindRef => ⟨0x0050, "ldind.ref", .none, .sequential⟩
  | .stindRef => ⟨0x0051, "stind.ref", .none, .sequential⟩
  | .stindI1 => ⟨0x0052, "stind.i1", .none, .sequential⟩
  | .stindI2 => ⟨0x0053, "stind.i2", .none, .sequential⟩
  | .stindI4 => ⟨0x0054, "stind.i4", .none, .sequential⟩
  | .stindI8 => ⟨0x0055, "stind.i8", .none, .sequential⟩
  | .stindR4 => ⟨0x0056, "stind.r4", .none, .sequential⟩
  | .stindR8 => ⟨0x0057, "stind.r8", .none, .sequential⟩
  | .add => ⟨0x0058, "add", .none, .sequential⟩
  | .sub => ⟨0x0059, "sub", .none, .sequential⟩
  | .mul => ⟨0x005A, "mul", .none, .sequential⟩
  | .div => ⟨0x005B, "div", .none, .sequential⟩
  | .divUn => ⟨0x005C, "div.un", .none, .sequential⟩
  | .rem => ⟨0x005D, "rem", .none, .sequential⟩
  | .remUn => ⟨0x005E, "rem.un", .none, .sequential⟩
  | .and => ⟨0x005F, "and", .none, .sequential⟩
  | .or => ⟨0x0060, "or", .none, .sequential⟩
  | .xor => ⟨0x0061, "xor", .none, .sequential⟩
  | .shl => ⟨0x0062, "shl", .none, .sequential⟩
  | .shr => ⟨0x0063, "shr", .none, .sequential⟩
  | .shrUn => ⟨0x0064, "shr.un", .none, .sequential⟩
  | .neg => ⟨0x0065, "neg", .none, .sequential⟩
  | .not => ⟨0x0066, "not", .none, .sequential⟩
  | .convI1 => ⟨0x0067, "conv.i1", .none, .sequential⟩
  | .convI2 => ⟨0x0068, "conv.i2", .none, .sequential⟩
  | .convI4 => ⟨0x0069, "conv.i4", .none, .sequential⟩
  | .convI8 => ⟨0x006A, "conv.i8", .none, .sequential⟩
  | .convR4 => ⟨0x006B, "conv.r4", .none, .sequential⟩
  | .convR8 => ⟨0x006C, "conv.r8", .none, .sequential⟩
  | .convU4 => ⟨0x006D, "conv.u4", .none, .sequential⟩
  | .convU8 => ⟨0x006E, "conv.u8", .none, .sequential⟩
  | .callvirt => ⟨0x006F, "callvirt", .method, .call⟩
  | .cpobj => ⟨0x0070, "cpobj", .type, .sequential⟩
  | .ldobj => ⟨0x0071, "ldobj", .type, .sequential⟩
  | .ldstr => ⟨0x0072, "ldstr", .string, .sequential⟩
  | .newobj => ⟨0x0073, "newobj", .method, .call⟩
  | .castclass => ⟨0x0074, "castclass", .type, .sequential⟩
  | .isinst => ⟨0x0075, "isinst", .type, .sequential⟩
  | .convRUn => ⟨0x0076, "conv.r.un", .none, .sequential⟩
  | .unbox => ⟨0x0079, "unbox", .type, .sequential⟩
  | .throw => ⟨0x007A, "throw", .none, .throw⟩
  | .ldfld => ⟨0x007B, "ldfld", .field, .sequential⟩
  | .ldflda => ⟨0x007C, "ldflda", .field, .sequential⟩
  | .stfld => ⟨0x007D, "stfld", .field, .sequential⟩
  | .ldsfld => ⟨0x007E, "ldsfld", .field, .sequential⟩
  | .ldsflda => ⟨0x007F, "ldsflda", .field, .sequential⟩
  | .stsfld => ⟨0x0080, "stsfld", .field, .sequential⟩
  | .stobj => ⟨0x0081, "stobj", .type, .sequential⟩
  | .convOvfI1Un => ⟨0x0082, "conv.ovf.i1.un", .none, .sequential⟩
  | .convOvfI2Un => ⟨0x0083, "conv.ovf.i2.un", .none, .sequential⟩
  | .convOvfI4Un => ⟨0x0084, "conv.ovf.i4.un", .none, .sequential⟩
  | .convOvfI8Un => ⟨0x0085, "conv.ovf.i8.un", .none, .sequential⟩
  | .convOvfU1Un => ⟨0x0086, "conv.ovf.u1.un", .none, .sequential⟩
  | .convOvfU2Un => ⟨0x0087, "conv.ovf.u2.un", .none, .sequential⟩
  | .convOvfU4Un => ⟨0x0088, "conv.ovf.u4.un", .none, .sequential⟩
  | .convOvfU8Un => ⟨0x0089, "conv.ovf.u8.un", .none, .sequential⟩
  | .convOvfIUn => ⟨0x008A, "conv.ovf.i.un", .none, .sequential⟩
  | .convOvfUUn => ⟨0x008B, "conv.ovf.u.un", .none, .sequential⟩
  | .box => ⟨0x008C, "box", .type, .sequential⟩
  | .newarr => ⟨0x008D, "newarr", .type, .sequential⟩
  | .ldlen => ⟨0x008E, "ldlen", .none, .sequential⟩
  | .ldelema => ⟨0x008F, "ldelema", .type, .sequential⟩
  | .ldelemI1 => ⟨0x0090, "ldelem.i1", .none, .sequential⟩
  | .ldelemU1 => ⟨0x0091, "ldelem.u1", .none, .sequential⟩
  | .ldelemI2 => ⟨0x0092, "ldelem.i2", .none, .sequential⟩
  | .ldelemU2 => ⟨0x0093, "ldelem.u2", .none, .sequential⟩
  | .ldelemI4 => ⟨0x0094, "ldelem.i4", .none, .sequential⟩
  | .ldelemU4 => ⟨0x0095, "ldelem.u4", .none, .sequential⟩
  | .ldelemI8 => ⟨0x0096, "ldelem.i8", .none, .sequential⟩
  | .ldelemI => ⟨0x0097, "ldelem.i", .none, .sequential⟩
  | .ldelemR4 => ⟨0x0098, "ldelem.r4", .none, .sequential⟩
  | .ldelemR8 => ⟨0x0099, "ldelem.r8", .none, .sequential⟩
  | .ldelemRef => ⟨0x009A, "ldelem.ref", .none, .sequential⟩
  | .stelemI => ⟨0x009B, "stelem.i", .none, .sequential⟩
  | .stelemI1 => ⟨0x009C, "stelem.i1", .none, .sequential⟩
  | .stelemI2 => ⟨0x009D, "stelem.i2", .none, .sequential⟩
  | .stelemI4 => ⟨0x009E, "stelem.i4", .none, .sequential⟩
  | .stelemI8 => ⟨0x009F, "stelem.i8", .none, .sequential⟩
  | .stelemR4 => ⟨0x00A0, "stelem.r4", .none, .sequential⟩
  | .stelemR8 => ⟨0x00A1, "stelem.r8", .none, .sequential⟩
  | .stelemRef => ⟨0x00A2, "stelem.ref", .none, .sequential⟩
  | .ldelem => ⟨0x00A3, "ldelem", .type, .sequential⟩
  | .stelem => ⟨0x00A4, "stelem", .type, .sequential⟩
  | .unboxAny => ⟨0x00A5, "unbox.any", .type, .sequential⟩
  | .convOvfI1 => ⟨0x00B3, "conv.ovf.i1", .none, .sequential⟩
  | .convOvfU1 => ⟨0x00B4, "conv.ovf.u1", .none, .sequential⟩
  | .convOvfI2 => ⟨0x00B5, "conv.ovf.i2", .none, .sequential⟩
  | .convOvfU2 => ⟨0x00B6, "conv.ovf.u2", .none, .sequential⟩
  | .convOvfI4 => ⟨0x00B7, "conv.ovf.i4", .none, .sequential⟩
  | .convOvfU4 => ⟨0x00B8, "conv.ovf.u4", .none, .sequential⟩
  | .convOvfI8 => ⟨0x00B9, "conv.ovf.i8", .none, .sequential⟩
  | .convOvfU8 => ⟨0x00BA, "conv.ovf.u8", .none, .sequential⟩
  | .refanyval => ⟨0x00C2, "refanyval", .type, .sequential⟩
  | .ckfinite => ⟨0x00C3, "ckfinite", .none, .sequential⟩
  | .mkrefany => ⟨0x00C6, "mkrefany", .type, .sequential⟩
  | .ldtoken => ⟨0x00D0, "ldtoken", .token, .sequential⟩
  | .convU2 => ⟨0x00D1, "conv.u2", .none, .sequential⟩
  | .convU1 => ⟨0x00D2, "conv.u1", .none, .sequential⟩
  | .convI => ⟨0x00D3, "conv.i", .none, .sequential⟩
  | .convOvfI => ⟨0x00D4, "conv.ovf.i", .none, .sequential⟩
  | .convOvfU => ⟨0x00D5, "conv.ovf.u", .none, .sequential⟩
  | .addOvf => ⟨0x00D6, "add.ovf", .none, .sequential⟩
  | .addOvfUn => ⟨0x00D7, "add.ovf.un", .none, .sequential⟩
  | .mulOvf => ⟨0x00D8, "mul.ovf", .none, .sequential⟩
  | .mulOvfUn => ⟨0x00D9, "mul.ovf.un", .none, .sequential⟩
  | .subOvf => ⟨0x00DA, "sub.ovf", .none, .sequential⟩
  | .subOvfUn => ⟨0x00DB, "sub.ovf.un", .none, .sequential⟩
  | .endfinally => ⟨0x00DC, "endfinally", .none, .endFinally⟩
  | .leave => ⟨0x00DD, "leave", .branch, .leave⟩
  | .leaveS => ⟨0x00DE, "leave.s", .shortBranch, .leave⟩
  | .stindI => ⟨0x00DF, "stind.i", .none, .sequential⟩
  | .convU => ⟨0x00E0, "conv.u", .none, .sequential⟩
  | .arglist => ⟨0xFE00, "arglist", .none, .sequential⟩
  | .ceq => ⟨0xFE01, "ceq", .none, .sequential⟩
  | .cgt => ⟨0xFE02, "cgt", .none, .sequential⟩
  | .cgtUn => ⟨0xFE03, "cgt.un", .none, .sequential⟩
  | .clt => ⟨0xFE04, "clt", .none, .sequential⟩
  | .cltUn => ⟨0xFE05, "clt.un", .none, .sequential⟩
  | .ldftn => ⟨0xFE06, "ldftn", .method, .sequential⟩
  | .ldvirtftn => ⟨0xFE07, "ldvirtftn", .method, .sequential⟩
  | .ldarg => ⟨0xFE09, "ldarg", .argumentSlot, .sequential⟩
  | .ldarga => ⟨0xFE0A, "ldarga", .argumentSlot, .sequential⟩
  | .starg => ⟨0xFE0B, "starg", .argumentSlot, .sequential⟩
  | .ldloc => ⟨0xFE0C, "ldloc", .localSlot, .sequential⟩
  | .ldloca => ⟨0xFE0D, "ldloca", .localSlot, .sequential⟩
  | .stloc => ⟨0xFE0E, "stloc", .localSlot, .sequential⟩
  | .localloc => ⟨0xFE0F, "localloc", .none, .sequential⟩
  | .endfilter => ⟨0xFE11, "endfilter", .none, .endFinally⟩
  | .unaligned => ⟨0xFE12, "unaligned.", .uInt8, .sequential⟩
  | .volatile => ⟨0xFE13, "volatile.", .none, .sequential⟩
  | .tail => ⟨0xFE14, "tail.", .none, .sequential⟩
  | .initobj => ⟨0xFE15, "initobj", .type, .sequential⟩
  | .constrained => ⟨0xFE16, "constrained.", .type, .sequential⟩
  | .cpblk => ⟨0xFE17, "cpblk", .none, .sequential⟩
  | .initblk => ⟨0xFE18, "initblk", .none, .sequential⟩
  | .no => ⟨0xFE19, "no.", .uInt8, .sequential⟩
  | .rethrow => ⟨0xFE1A, "rethrow", .none, .throw⟩
  | .sizeof => ⟨0xFE1C, "sizeof", .type, .sequential⟩
  | .refanytype => ⟨0xFE1D, "refanytype", .none, .sequential⟩
  | .readonly => ⟨0xFE1E, "readonly.", .none, .sequential⟩

def all : List Opcode :=
  [.nop, .brk, .ldarg0, .ldarg1, .ldarg2, .ldarg3, .ldloc0, .ldloc1, .ldloc2, .ldloc3, .stloc0,
   .stloc1, .stloc2, .stloc3, .ldargS, .ldargaS, .stargS, .ldlocS, .ldlocaS, .stlocS, .ldnull,
   .ldcI4M1, .ldcI40, .ldcI41, .ldcI42, .ldcI43, .ldcI44, .ldcI45, .ldcI46, .ldcI47, .ldcI48,
   .ldcI4S, .ldcI4, .ldcI8, .ldcR4, .ldcR8, .dup, .pop, .jmp, .call, .calli, .ret, .brS,
   .brfalseS, .brtrueS, .beqS, .bgeS, .bgtS, .bleS, .bltS, .bneUnS, .bgeUnS, .bgtUnS, .bleUnS,
   .bltUnS, .br, .brfalse, .brtrue, .beq, .bge, .bgt, .ble, .blt, .bneUn, .bgeUn, .bgtUn,
   .bleUn, .bltUn, .switch, .ldindI1, .ldindU1, .ldindI2, .ldindU2, .ldindI4, .ldindU4,
   .ldindI8, .ldindI, .ldindR4, .ldindR8, .ldindRef, .stindRef, .stindI1, .stindI2, .stindI4,
   .stindI8, .stindR4, .stindR8, .add, .sub, .mul, .div, .divUn, .rem, .remUn, .and, .or, .xor,
   .shl, .shr, .shrUn, .neg, .not, .convI1, .convI2, .convI4, .convI8, .convR4, .convR8,
   .convU4, .convU8, .callvirt, .cpobj, .ldobj, .ldstr, .newobj, .castclass, .isinst, .convRUn,
   .unbox, .throw, .ldfld, .ldflda, .stfld, .ldsfld, .ldsflda, .stsfld, .stobj, .convOvfI1Un,
   .convOvfI2Un, .convOvfI4Un, .convOvfI8Un, .convOvfU1Un, .convOvfU2Un, .convOvfU4Un,
   .convOvfU8Un, .convOvfIUn, .convOvfUUn, .box, .newarr, .ldlen, .ldelema, .ldelemI1,
   .ldelemU1, .ldelemI2, .ldelemU2, .ldelemI4, .ldelemU4, .ldelemI8, .ldelemI, .ldelemR4,
   .ldelemR8, .ldelemRef, .stelemI, .stelemI1, .stelemI2, .stelemI4, .stelemI8, .stelemR4,
   .stelemR8, .stelemRef, .ldelem, .stelem, .unboxAny, .convOvfI1, .convOvfU1, .convOvfI2,
   .convOvfU2, .convOvfI4, .convOvfU4, .convOvfI8, .convOvfU8, .refanyval, .ckfinite,
   .mkrefany, .ldtoken, .convU2, .convU1, .convI, .convOvfI, .convOvfU, .addOvf, .addOvfUn,
   .mulOvf, .mulOvfUn, .subOvf, .subOvfUn, .endfinally, .leave, .leaveS, .stindI, .convU,
   .arglist, .ceq, .cgt, .cgtUn, .clt, .cltUn, .ldftn, .ldvirtftn, .ldarg, .ldarga, .starg,
   .ldloc, .ldloca, .stloc, .localloc, .endfilter, .unaligned, .volatile, .tail, .initobj,
   .constrained, .cpblk, .initblk, .no, .rethrow, .sizeof, .refanytype, .readonly]

/-- The encoding: one byte, or two behind the escape byte 0xFE. -/
def encoding (opcode : Opcode) : UInt16 := opcode.info.encoding

def mnemonic (opcode : Opcode) : String := opcode.info.mnemonic

def operandShape (opcode : Opcode) : OperandShape := opcode.info.operandShape

def flow (opcode : Opcode) : Flow := opcode.info.flow

def ofMnemonic? (text : String) : Option Opcode :=
  all.find? fun opcode => opcode.mnemonic = text

/-- The mnemonic in camel case: its dotted parts, each with a capital, run together. -/
def title (opcode : Opcode) : String :=
  String.ofList (capitalize true opcode.mnemonic.toList)
where
  capitalize : Bool → List Char → List Char
    | _, [] => []
    | _, '.' :: rest => capitalize true rest
    | atStart, c :: rest => (if atStart then c.toUpper else c) :: capitalize false rest

instance : Ord Opcode where
  compare left right := compare left.encoding right.encoding

def size (opcode : Opcode) : Nat :=
  if opcode.encoding >>> 8 = 0xFE then 2 else 1

/-- The operand names one or more jump targets. -/
def isJump (opcode : Opcode) : Bool :=
  match opcode.operandShape with
  | .shortBranch | .branch | .switch => true
  | _ => false

def isShortJump (opcode : Opcode) : Bool :=
  opcode.operandShape = .shortBranch

/-- The operation only qualifies the one that follows it. -/
def isModifier : Opcode → Bool
  | .unaligned | .volatile | .tail | .constrained | .no | .readonly => true
  | _ => false

def isCall : Opcode → Bool
  | .call | .callvirt | .newobj => true
  | _ => false

/-- The branch with a four byte displacement that does what a short branch does. -/
def lengthened : Opcode → Opcode
  | .brS => .br
  | .brfalseS => .brfalse
  | .brtrueS => .brtrue
  | .beqS => .beq
  | .bgeS => .bge
  | .bgtS => .bgt
  | .bleS => .ble
  | .bltS => .blt
  | .bneUnS => .bneUn
  | .bgeUnS => .bgeUn
  | .bgtUnS => .bgtUn
  | .bleUnS => .bleUn
  | .bltUnS => .bltUn
  | .leaveS => .leave
  | other => other

/-- The branch with a one byte displacement that does what a long branch does. -/
def shortened : Opcode → Opcode
  | .br => .brS
  | .brfalse => .brfalseS
  | .brtrue => .brtrueS
  | .beq => .beqS
  | .bge => .bgeS
  | .bgt => .bgtS
  | .ble => .bleS
  | .blt => .bltS
  | .bneUn => .bneUnS
  | .bgeUn => .bgeUnS
  | .bgtUn => .bgtUnS
  | .bleUn => .bleUnS
  | .bltUn => .bltUnS
  | .leave => .leaveS
  | other => other

@[simp] theorem lengthened_not_short (opcode : Opcode) : opcode.lengthened.isShortJump = false := by
  cases opcode <;> rfl

@[simp] theorem lengthened_lengthened (opcode : Opcode) :
    opcode.lengthened.lengthened = opcode.lengthened := by
  cases opcode <;> rfl

theorem lengthened_of_not_short {opcode : Opcode} (long : opcode.isShortJump = false) :
    opcode.lengthened = opcode := by
  revert long
  cases opcode <;> decide

theorem shortened_of_short {opcode : Opcode} (short : opcode.isShortJump = true) :
    opcode.shortened = opcode := by
  revert short
  cases opcode <;> decide

@[simp] theorem shortened_lengthened (opcode : Opcode) :
    opcode.lengthened.shortened = opcode.shortened := by
  cases opcode <;> rfl

@[simp] theorem lengthened_shortened (opcode : Opcode) :
    opcode.shortened.lengthened = opcode.lengthened := by
  cases opcode <;> rfl

/-- Operations that are the same when long are the two widths of one operation. -/
theorem lengthened_eq_iff {opcode other : Opcode} :
    other.lengthened = opcode.lengthened ↔ other = opcode.shortened ∨ other = opcode.lengthened := by
  constructor
  · intro same
    cases short : other.isShortJump with
    | false => exact .inr ((lengthened_of_not_short short).symm.trans same)
    | true =>
      have shortened := congrArg shortened same
      rw [shortened_lengthened, shortened_lengthened, shortened_of_short short] at shortened
      exact .inl shortened
  · rintro (rfl | rfl)
    · exact lengthened_shortened opcode
    · exact lengthened_lengthened opcode

end Opcode
end Retrofit
