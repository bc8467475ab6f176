import DefOut.Text.CharSet
import DefOut.Text.Utf8

set_option autoImplicit false

/-!
How a character takes part in grapheme clusters (Unicode 15.0). Characters are compared in their
UTF-8 form, read as one number; a row of the property lists, which holds neighbours of one
category, is an interval of such numbers, and a form in it has the property although it may be no
well-formed character.
-/
namespace DefOut.Text

def graphemeControl : CharSet where
  edges := #[
    0xC280, 0xC2A0, 0xC2AD, 0xC2AE, 0xD89C, 0xD89D, 0xE1A08E, 0xE1A08F, 0xE2808B, 0xE2808C,
    0xE2808E, 0xE28090, 0xE280A8, 0xE280AF, 0xE281A0, 0xE281B0, 0xEFBBBF, 0xEFBBC0, 0xEFBFB0,
    0xEFBFBC, 0xF09390B0, 0xF09390C0, 0xF09BB2A0, 0xF09BB2A4, 0xF09D85B3, 0xF09D85BB, 0xF3A08080,
    0xF3A080A0, 0xF3A08280, 0xF3A083C0, 0xF3A087B0, 0xF3A0BFC0]

def graphemeExtend : CharSet where
  edges := #[
    0xCC80, 0xCDB0, 0xD283, 0xD28A, 0xD691, 0xD6BE, 0xD6BF, 0xD6C0, 0xD781, 0xD783, 0xD784,
    0xD786, 0xD787, 0xD788, 0xD890, 0xD89B, 0xD98B, 0xD9A0, 0xD9B0, 0xD9B1, 0xDB96, 0xDB9D,
    0xDB9F, 0xDBA5, 0xDBA7, 0xDBA9, 0xDBAA, 0xDBAE, 0xDC91, 0xDC92, 0xDCB0, 0xDD8B, 0xDEA6,
    0xDEB1, 0xDFAB, 0xDFB4, 0xDFBD, 0xDFBE, 0xE0A096, 0xE0A09A, 0xE0A09B, 0xE0A0A4, 0xE0A0A5,
    0xE0A0A8, 0xE0A0A9, 0xE0A0AE, 0xE0A199, 0xE0A19C, 0xE0A298, 0xE0A2A0, 0xE0A38A, 0xE0A3A2,
    0xE0A3A3, 0xE0A484, 0xE0A4BA, 0xE0A4BD, 0xE0A4BE, 0xE0A590, 0xE0A591, 0xE0A598, 0xE0A5A2,
    0xE0A5A4, 0xE0A681, 0xE0A684, 0xE0A6BC, 0xE0A6BD, 0xE0A6BE, 0xE0A785, 0xE0A787, 0xE0A789,
    0xE0A78B, 0xE0A78E, 0xE0A797, 0xE0A798, 0xE0A7A2, 0xE0A7A4, 0xE0A7BE, 0xE0A7BF, 0xE0A881,
    0xE0A884, 0xE0A8BC, 0xE0A8BD, 0xE0A8BE, 0xE0A983, 0xE0A987, 0xE0A989, 0xE0A98B, 0xE0A98E,
    0xE0A991, 0xE0A992, 0xE0A9B0, 0xE0A9B2, 0xE0A9B5, 0xE0A9B6, 0xE0AA81, 0xE0AA84, 0xE0AABC,
    0xE0AABD, 0xE0AABE, 0xE0AB86, 0xE0AB87, 0xE0AB8A, 0xE0AB8B, 0xE0AB8E, 0xE0ABA2, 0xE0ABA4,
    0xE0ABBA, 0xE0ABC0, 0xE0AC81, 0xE0AC84, 0xE0ACBC, 0xE0ACBD, 0xE0ACBE, 0xE0ACC0, 0xE0AD80,
    0xE0AD85, 0xE0AD87, 0xE0AD89, 0xE0AD8B, 0xE0AD8E, 0xE0AD95, 0xE0AD98, 0xE0ADA2, 0xE0ADA4,
    0xE0AE82, 0xE0AE83, 0xE0AEBE, 0xE0AEC0, 0xE0AF80, 0xE0AF83, 0xE0AF86, 0xE0AF89, 0xE0AF8A,
    0xE0AF8E, 0xE0AF97, 0xE0AF98, 0xE0B080, 0xE0B085, 0xE0B0BC, 0xE0B0BD, 0xE0B0BE, 0xE0B185,
    0xE0B186, 0xE0B189, 0xE0B18A, 0xE0B18E, 0xE0B195, 0xE0B197, 0xE0B1A2, 0xE0B1A4, 0xE0B281,
    0xE0B284, 0xE0B2BC, 0xE0B2BD, 0xE0B2BE, 0xE0B2C0, 0xE0B380, 0xE0B385, 0xE0B386, 0xE0B389,
    0xE0B38A, 0xE0B38E, 0xE0B395, 0xE0B397, 0xE0B3A2, 0xE0B3A4, 0xE0B3B3, 0xE0B3B4, 0xE0B480,
    0xE0B484, 0xE0B4BB, 0xE0B4BD, 0xE0B4BE, 0xE0B585, 0xE0B586, 0xE0B589, 0xE0B58A, 0xE0B58E,
    0xE0B597, 0xE0B598, 0xE0B5A2, 0xE0B5A4, 0xE0B681, 0xE0B684, 0xE0B78A, 0xE0B78B, 0xE0B78F,
    0xE0B795, 0xE0B796, 0xE0B797, 0xE0B798, 0xE0B7A0, 0xE0B7B2, 0xE0B7B4, 0xE0B8B1, 0xE0B8B2,
    0xE0B8B3, 0xE0B8BB, 0xE0B987, 0xE0B98F, 0xE0BAB1, 0xE0BAB2, 0xE0BAB3, 0xE0BABD, 0xE0BB88,
    0xE0BB8F, 0xE0BC98, 0xE0BC9A, 0xE0BCB5, 0xE0BCB6, 0xE0BCB7, 0xE0BCB8, 0xE0BCB9, 0xE0BCBA,
    0xE0BCBE, 0xE0BCC0, 0xE0BDB1, 0xE0BDC0, 0xE0BE80, 0xE0BE85, 0xE0BE86, 0xE0BE88, 0xE0BE8D,
    0xE0BE98, 0xE0BE99, 0xE0BEBD, 0xE0BF86, 0xE0BF87, 0xE180AD, 0xE180B8, 0xE180B9, 0xE180BF,
    0xE18196, 0xE1819A, 0xE1819E, 0xE181A1, 0xE181B1, 0xE181B5, 0xE18282, 0xE18283, 0xE18284,
    0xE18287, 0xE1828D, 0xE1828E, 0xE1829D, 0xE1829E, 0xE18D9D, 0xE18DA0, 0xE19C92, 0xE19C96,
    0xE19CB2, 0xE19CB5, 0xE19D92, 0xE19D94, 0xE19DB2, 0xE19DB4, 0xE19EB4, 0xE19F94, 0xE19F9D,
    0xE19F9E, 0xE1A08B, 0xE1A08E, 0xE1A08F, 0xE1A090, 0xE1A285, 0xE1A287, 0xE1A2A9, 0xE1A2AA,
    0xE1A4A0, 0xE1A4AC, 0xE1A4B0, 0xE1A4BC, 0xE1A897, 0xE1A89C, 0xE1A995, 0xE1A99F, 0xE1A9A0,
    0xE1A9A1, 0xE1A9A2, 0xE1A9A3, 0xE1A9A5, 0xE1A9BD, 0xE1A9BF, 0xE1A9C0, 0xE1AAB0, 0xE1AB8F,
    0xE1AC80, 0xE1AC85, 0xE1ACB4, 0xE1AD85, 0xE1ADAB, 0xE1ADB4, 0xE1AE80, 0xE1AE83, 0xE1AEA1,
    0xE1AEAE, 0xE1AFA6, 0xE1AFB4, 0xE1B0A4, 0xE1B0B8, 0xE1B390, 0xE1B393, 0xE1B394, 0xE1B3A9,
    0xE1B3AD, 0xE1B3AE, 0xE1B3B4, 0xE1B3B5, 0xE1B3B7, 0xE1B3BA, 0xE1B780, 0xE1B7C0, 0xE2808C,
    0xE2808D, 0xE28390, 0xE283B1, 0xE2B3AF, 0xE2B3B2, 0xE2B5BF, 0xE2B5C0, 0xE2B7A0, 0xE2B7C0,
    0xE380AA, 0xE380B0, 0xE38299, 0xE3829B, 0xEA99AF, 0xEA99B3, 0xEA99B4, 0xEA99BE, 0xEA9A9E,
    0xEA9AA0, 0xEA9BB0, 0xEA9BB2, 0xEAA082, 0xEAA083, 0xEAA086, 0xEAA087, 0xEAA08B, 0xEAA08C,
    0xEAA0A3, 0xEAA0A8, 0xEAA0AC, 0xEAA0AD, 0xEAA280, 0xEAA282, 0xEAA2B4, 0xEAA386, 0xEAA3A0,
    0xEAA3B2, 0xEAA3BF, 0xEAA3C0, 0xEAA4A6, 0xEAA4AE, 0xEAA587, 0xEAA594, 0xEAA680, 0xEAA684,
    0xEAA6B3, 0xEAA781, 0xEAA7A5, 0xEAA7A6, 0xEAA8A9, 0xEAA8B7, 0xEAA983, 0xEAA984, 0xEAA98C,
    0xEAA98E, 0xEAA9BC, 0xEAA9BD, 0xEAAAB0, 0xEAAAB1, 0xEAAAB2, 0xEAAAB5, 0xEAAAB7, 0xEAAAB9,
    0xEAAABE, 0xEAAAC0, 0xEAAB81, 0xEAAB82, 0xEAABAB, 0xEAABB0, 0xEAABB5, 0xEAABB7, 0xEAAFA3,
    0xEAAFAB, 0xEAAFAC, 0xEAAFAE, 0xEFAC9E, 0xEFAC9F, 0xEFB880, 0xEFB890, 0xEFB8A0, 0xEFB8B0,
    0xEFBE9E, 0xEFBEA0, 0xF09087BD, 0xF09087BE, 0xF0908BA0, 0xF0908BA1, 0xF0908DB6, 0xF0908DBB,
    0xF090A881, 0xF090A884, 0xF090A885, 0xF090A887, 0xF090A88C, 0xF090A890, 0xF090A8B8,
    0xF090A8BB, 0xF090A8BF, 0xF090A8C0, 0xF090ABA5, 0xF090ABA7, 0xF090B4A4, 0xF090B4A8,
    0xF090BAAB, 0xF090BAAD, 0xF090BBBD, 0xF090BBC0, 0xF090BD86, 0xF090BD91, 0xF090BE82,
    0xF090BE86, 0xF0918080, 0xF0918083, 0xF09180B8, 0xF0918187, 0xF09181B0, 0xF09181B1,
    0xF09181B3, 0xF09181B5, 0xF09181BF, 0xF0918283, 0xF09182B0, 0xF09182BB, 0xF0918382,
    0xF0918383, 0xF0918480, 0xF0918483, 0xF09184A7, 0xF09184B5, 0xF0918585, 0xF0918587,
    0xF09185B3, 0xF09185B4, 0xF0918680, 0xF0918683, 0xF09186B3, 0xF0918781, 0xF0918789,
    0xF091878D, 0xF091878E, 0xF0918790, 0xF09188AC, 0xF09188B8, 0xF09188BE, 0xF09188BF,
    0xF0918981, 0xF0918982, 0xF0918B9F, 0xF0918BAB, 0xF0918C80, 0xF0918C84, 0xF0918CBB,
    0xF0918CBD, 0xF0918CBE, 0xF0918CC0, 0xF0918D80, 0xF0918D85, 0xF0918D87, 0xF0918D89,
    0xF0918D8B, 0xF0918D8E, 0xF0918D97, 0xF0918D98, 0xF0918DA2, 0xF0918DA4, 0xF0918DA6,
    0xF0918DAD, 0xF0918DB0, 0xF0918DB5, 0xF09190B5, 0xF09190C0, 0xF0919180, 0xF0919187,
    0xF091919E, 0xF091919F, 0xF09192B0, 0xF0919384, 0xF09196AF, 0xF09196B6, 0xF09196B8,
    0xF0919781, 0xF091979C, 0xF091979E, 0xF09198B0, 0xF0919981, 0xF0919AAB, 0xF0919AB8,
    0xF0919C9D, 0xF0919CA0, 0xF0919CA2, 0xF0919CAC, 0xF091A0AC, 0xF091A0BB, 0xF091A4B0,
    0xF091A4B6, 0xF091A4B7, 0xF091A4B9, 0xF091A4BB, 0xF091A4BF, 0xF091A580, 0xF091A581,
    0xF091A582, 0xF091A584, 0xF091A791, 0xF091A798, 0xF091A79A, 0xF091A7A1, 0xF091A7A4,
    0xF091A7A5, 0xF091A881, 0xF091A88B, 0xF091A8B3, 0xF091A8BA, 0xF091A8BB, 0xF091A8BF,
    0xF091A987, 0xF091A988, 0xF091A991, 0xF091A99C, 0xF091AA8A, 0xF091AA9A, 0xF091B0AF,
    0xF091B0B7, 0xF091B0B8, 0xF091B0C0, 0xF091B292, 0xF091B2A8, 0xF091B2A9, 0xF091B2B7,
    0xF091B4B1, 0xF091B4B7, 0xF091B4BA, 0xF091B4BB, 0xF091B4BC, 0xF091B4BE, 0xF091B4BF,
    0xF091B586, 0xF091B587, 0xF091B588, 0xF091B68A, 0xF091B68F, 0xF091B690, 0xF091B692,
    0xF091B693, 0xF091B698, 0xF091BBB3, 0xF091BBB7, 0xF091BC80, 0xF091BC82, 0xF091BC83,
    0xF091BC84, 0xF091BCB4, 0xF091BCBB, 0xF091BCBE, 0xF091BCC0, 0xF091BD80, 0xF091BD83,
    0xF0939180, 0xF0939181, 0xF0939187, 0xF0939196, 0xF096ABB0, 0xF096ABB5, 0xF096ACB0,
    0xF096ACB7, 0xF096BD8F, 0xF096BD90, 0xF096BD91, 0xF096BE88, 0xF096BE8F, 0xF096BE93,
    0xF096BFA4, 0xF096BFA5, 0xF096BFB0, 0xF096BFB2, 0xF09BB29D, 0xF09BB29F, 0xF09CBC80,
    0xF09CBCAE, 0xF09CBCB0, 0xF09CBD87, 0xF09D85A5, 0xF09D85AA, 0xF09D85AD, 0xF09D85B3,
    0xF09D85BB, 0xF09D8683, 0xF09D8685, 0xF09D868C, 0xF09D86AA, 0xF09D86AE, 0xF09D8982,
    0xF09D8985, 0xF09DA880, 0xF09DA8B7, 0xF09DA8BB, 0xF09DA9AD, 0xF09DA9B5, 0xF09DA9B6,
    0xF09DAA84, 0xF09DAA85, 0xF09DAA9B, 0xF09DAAA0, 0xF09DAAA1, 0xF09DAAB0, 0xF09E8080,
    0xF09E8087, 0xF09E8088, 0xF09E8099, 0xF09E809B, 0xF09E80A2, 0xF09E80A3, 0xF09E80A5,
    0xF09E80A6, 0xF09E80AB, 0xF09E828F, 0xF09E8290, 0xF09E84B0, 0xF09E84B7, 0xF09E8AAE,
    0xF09E8AAF, 0xF09E8BAC, 0xF09E8BB0, 0xF09E93AC, 0xF09E93B0, 0xF09EA390, 0xF09EA397,
    0xF09EA584, 0xF09EA58B, 0xF09F8FBB, 0xF09F8FC0, 0xF3A080A0, 0xF3A081C0, 0xF3A08480,
    0xF3A087B0]

def graphemePrepend : CharSet where
  edges := #[
    0xD880, 0xD886, 0xDB9D, 0xDB9E, 0xDC8F, 0xDC90, 0xE0A290, 0xE0A292, 0xE0A3A2, 0xE0A3A3,
    0xE0B58E, 0xE0B58F, 0xF09182BD, 0xF09182BE, 0xF091838D, 0xF091838E, 0xF0918782, 0xF0918784,
    0xF091A4BF, 0xF091A4C0, 0xF091A581, 0xF091A582, 0xF091A8BA, 0xF091A8BB, 0xF091AA84,
    0xF091AA8A, 0xF091B586, 0xF091B587, 0xF091BC82, 0xF091BC83]

def pictographic : CharSet where
  edges := #[
    0xC2A9, 0xC2AA, 0xC2AE, 0xC2AF, 0xE280BC, 0xE280BD, 0xE28189, 0xE2818A, 0xE284A2, 0xE284A3,
    0xE284B9, 0xE284BA, 0xE28694, 0xE2869A, 0xE286A9, 0xE286AB, 0xE28C9A, 0xE28C9C, 0xE28CA8,
    0xE28CA9, 0xE28E88, 0xE28E89, 0xE28F8F, 0xE28F90, 0xE28FA9, 0xE28FB4, 0xE28FB8, 0xE28FBB,
    0xE29382, 0xE29383, 0xE296AA, 0xE296AC, 0xE296B6, 0xE296B7, 0xE29780, 0xE29781, 0xE297BB,
    0xE297BF, 0xE29880, 0xE29886, 0xE29887, 0xE29893, 0xE29894, 0xE298C0, 0xE29980, 0xE299C0,
    0xE29A80, 0xE29A86, 0xE29A90, 0xE29C86, 0xE29C88, 0xE29C93, 0xE29C94, 0xE29C95, 0xE29C96,
    0xE29C97, 0xE29C9D, 0xE29C9E, 0xE29CA1, 0xE29CA2, 0xE29CA8, 0xE29CA9, 0xE29CB3, 0xE29CB5,
    0xE29D84, 0xE29D85, 0xE29D87, 0xE29D88, 0xE29D8C, 0xE29D8D, 0xE29D8E, 0xE29D8F, 0xE29D93,
    0xE29D96, 0xE29D97, 0xE29D98, 0xE29DA3, 0xE29DA8, 0xE29E95, 0xE29E98, 0xE29EA1, 0xE29EA2,
    0xE29EB0, 0xE29EB1, 0xE29EBF, 0xE29EC0, 0xE2A4B4, 0xE2A4B6, 0xE2AC85, 0xE2AC88, 0xE2AC9B,
    0xE2AC9D, 0xE2AD90, 0xE2AD91, 0xE2AD95, 0xE2AD96, 0xE380B0, 0xE380B1, 0xE380BD, 0xE380BE,
    0xE38A97, 0xE38A98, 0xE38A99, 0xE38A9A, 0xF09F8080, 0xF09F83C0, 0xF09F848D, 0xF09F8490,
    0xF09F84AF, 0xF09F84B0, 0xF09F85AC, 0xF09F85B2, 0xF09F85BE, 0xF09F85C0, 0xF09F868E,
    0xF09F868F, 0xF09F8691, 0xF09F869B, 0xF09F86AD, 0xF09F87A6, 0xF09F8881, 0xF09F8890,
    0xF09F889A, 0xF09F889B, 0xF09F88AF, 0xF09F88B0, 0xF09F88B2, 0xF09F88BB, 0xF09F88BC,
    0xF09F88C0, 0xF09F8989, 0xF09F8BC0, 0xF09F8C80, 0xF09F8DC0, 0xF09F8E80, 0xF09F8FBB,
    0xF09F9080, 0xF09F90C0, 0xF09F9180, 0xF09F94BE, 0xF09F9586, 0xF09F97C0, 0xF09F9880,
    0xF09F9990, 0xF09F9A80, 0xF09F9AC0, 0xF09F9B80, 0xF09F9BC0, 0xF09F9DB4, 0xF09F9DC0,
    0xF09F9F95, 0xF09F9FC0, 0xF09FA08C, 0xF09FA090, 0xF09FA188, 0xF09FA190, 0xF09FA19A,
    0xF09FA1A0, 0xF09FA288, 0xF09FA290, 0xF09FA2AE, 0xF09FA3C0, 0xF09FA48C, 0xF09FA4BB,
    0xF09FA4BC, 0xF09FA4C0, 0xF09FA580, 0xF09FA586, 0xF09FA587, 0xF09FA5C0, 0xF09FA680,
    0xF09FA6C0, 0xF09FA780, 0xF09FA7C0, 0xF09FA880, 0xF09FA9C0, 0xF09FAA80, 0xF09FAAC0,
    0xF09FAB80, 0xF09FABC0, 0xF09FB080, 0xF09FBFBE]

def hangulLeading : CharSet where
  edges := #[0xE18480, 0xE185A0, 0xEAA5A0, 0xEAA5BD]

def hangulVowel : CharSet where
  edges := #[0xE185A0, 0xE186A8, 0xED9EB0, 0xED9F87]

def hangulTrailing : CharSet where
  edges := #[0xE186A8, 0xE187C0, 0xED9F8B, 0xED9FBC]

inductive GraphemeClass where
  | carriageReturn
  | lineFeed
  | control
  | extend
  /-- A form that can extend a cluster but is no character and starts none. -/
  | brokenExtend
  | joiner
  | regional
  | prepended
  | hangulL
  | hangulV
  | hangulT
  | hangulLV
  | hangulLVT
  | pictograph
  | other
  deriving DecidableEq, Repr

/-- The class of a form between the first and the last Hangul syllable: for each leading
consonant and vowel there is one syllable that ends there, and then a row of 27 that end with a
consonant. -/
def hangulClass? (form : Nat) : Option GraphemeClass :=
  let number (c : Nat) : Nat := formNumber (encode c)
  (List.range 399).findSome? fun i =>
    let base := 0xAC00 + 28 * i
    if form = number base then some .hangulLV
    else if number (base + 1) ≤ form ∧ form ≤ number (base + 27) then some .hangulLVT
    else none

/-- The class of a form above ASCII that has a class of its own. -/
def formClass? (form : Nat) : Option GraphemeClass :=
  if form = 0xE2808D then some .joiner
  else if form = 0xEFBFBD then some .control
  else if 0xF09F87A6 ≤ form ∧ form ≤ 0xF09F87BF then some .regional
  else if hangulLeading.contains form then some .hangulL
  else if hangulVowel.contains form then some .hangulV
  else if hangulTrailing.contains form then some .hangulT
  else if 0xEAB080 ≤ form ∧ form ≤ 0xED9EA3 then hangulClass? form
  else if graphemeControl.contains form then some .control
  else if graphemeExtend.contains form then some .extend
  else if graphemePrepend.contains form then some .prepended
  else if pictographic.contains form then some .pictograph
  else none

/-- The class of the character that `c :: s` starts with, and how many bytes it has. A byte that
starts no character stands alone. -/
def graphemeAt (c : UInt8) (s : Bytes) : GraphemeClass × Nat :=
  if c = 0x0D then (.carriageReturn, 1)
  else if c = 0x0A then (.lineFeed, 1)
  else if c < 0x20 ∨ c = 0x7F then (.control, 1)
  else if c < 0x7F then (.other, 1)
  else
    let size := formSize c
    let shaped := characterSize? (c :: s)
    match formClass? (formNumber ((c :: s).take size)), shaped with
    | some .extend, none => (.brokenExtend, size)
    | some k, _ => (k, size)
    | none, some size => (.other, size)
    | none, none => (.control, 1)

end DefOut.Text
