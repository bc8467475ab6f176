import DefOut.Text.CharSet
import DefOut.Text.Utf8

set_option autoImplicit false

/-!
The characters of identifiers in project files: the Unicode 9.0 properties for the first and
for the following characters of an identifier. The underscore at the start and the hyphen are
added by the token rules, not here.

Characters are compared in their UTF-8 form, read as one number. A row of the property list,
which holds neighbours of one category, is an interval of such numbers, and a form that lies in
it is taken although it may be no well-formed character.
-/
namespace DefOut.Text

def identifierStart : CharSet where
  edges := #[
    0x41, 0x5B, 0x61, 0x7B, 0xC2AA, 0xC2AB, 0xC2B5, 0xC2B6, 0xC2BA, 0xC2BB, 0xC380, 0xC397,
    0xC398, 0xC3B7, 0xC3B8, 0xC6C0, 0xC780, 0xCB82, 0xCB86, 0xCB92, 0xCBA0, 0xCBA5, 0xCBAC,
    0xCBAD, 0xCBAE, 0xCBAF, 0xCDB0, 0xCDB5, 0xCDB6, 0xCDB8, 0xCDBA, 0xCDBE, 0xCDBF, 0xCDC0,
    0xCE86, 0xCE87, 0xCE88, 0xCE8B, 0xCE8C, 0xCE8D, 0xCE8E, 0xCEA2, 0xCEA3, 0xCFB6, 0xCFB7,
    0xD282, 0xD28A, 0xD4B0, 0xD4B1, 0xD597, 0xD599, 0xD59A, 0xD5A1, 0xD688, 0xD790, 0xD7AB,
    0xD7B0, 0xD7B3, 0xD8A0, 0xD8C0, 0xD980, 0xD98B, 0xD9AE, 0xD9B0, 0xD9B1, 0xDB94, 0xDB95,
    0xDB96, 0xDBA5, 0xDBA7, 0xDBAE, 0xDBB0, 0xDBBA, 0xDBBD, 0xDBBF, 0xDBC0, 0xDC90, 0xDC91,
    0xDC92, 0xDCB0, 0xDD8D, 0xDEA6, 0xDEB1, 0xDEB2, 0xDF8A, 0xDFAB, 0xDFB4, 0xDFB6, 0xDFBA,
    0xDFBB, 0xE0A080, 0xE0A096, 0xE0A09A, 0xE0A09B, 0xE0A0A4, 0xE0A0A5, 0xE0A0A8, 0xE0A0A9,
    0xE0A180, 0xE0A199, 0xE0A2A0, 0xE0A2B5, 0xE0A2B6, 0xE0A2BE, 0xE0A484, 0xE0A4BA, 0xE0A4BD,
    0xE0A4BE, 0xE0A590, 0xE0A591, 0xE0A598, 0xE0A5A2, 0xE0A5B1, 0xE0A681, 0xE0A685, 0xE0A68D,
    0xE0A68F, 0xE0A691, 0xE0A693, 0xE0A6A9, 0xE0A6AA, 0xE0A6B1, 0xE0A6B2, 0xE0A6B3, 0xE0A6B6,
    0xE0A6BA, 0xE0A6BD, 0xE0A6BE, 0xE0A78E, 0xE0A78F, 0xE0A79C, 0xE0A79E, 0xE0A79F, 0xE0A7A2,
    0xE0A7B0, 0xE0A7B2, 0xE0A885, 0xE0A88B, 0xE0A88F, 0xE0A891, 0xE0A893, 0xE0A8A9, 0xE0A8AA,
    0xE0A8B1, 0xE0A8B2, 0xE0A8B4, 0xE0A8B5, 0xE0A8B7, 0xE0A8B8, 0xE0A8BA, 0xE0A999, 0xE0A99D,
    0xE0A99E, 0xE0A99F, 0xE0A9B2, 0xE0A9B5, 0xE0AA85, 0xE0AA8E, 0xE0AA8F, 0xE0AA92, 0xE0AA93,
    0xE0AAA9, 0xE0AAAA, 0xE0AAB1, 0xE0AAB2, 0xE0AAB4, 0xE0AAB5, 0xE0AABA, 0xE0AABD, 0xE0AABE,
    0xE0AB90, 0xE0AB91, 0xE0ABA0, 0xE0ABA2, 0xE0ABB9, 0xE0ABBA, 0xE0AC85, 0xE0AC8D, 0xE0AC8F,
    0xE0AC91, 0xE0AC93, 0xE0ACA9, 0xE0ACAA, 0xE0ACB1, 0xE0ACB2, 0xE0ACB4, 0xE0ACB5, 0xE0ACBA,
    0xE0ACBD, 0xE0ACBE, 0xE0AD9C, 0xE0AD9E, 0xE0AD9F, 0xE0ADA2, 0xE0ADB1, 0xE0ADB2, 0xE0AE83,
    0xE0AE84, 0xE0AE85, 0xE0AE8B, 0xE0AE8E, 0xE0AE91, 0xE0AE92, 0xE0AE96, 0xE0AE99, 0xE0AE9B,
    0xE0AE9C, 0xE0AE9D, 0xE0AE9E, 0xE0AEA0, 0xE0AEA3, 0xE0AEA5, 0xE0AEA8, 0xE0AEAB, 0xE0AEAE,
    0xE0AEBA, 0xE0AF90, 0xE0AF91, 0xE0B085, 0xE0B08D, 0xE0B08E, 0xE0B091, 0xE0B092, 0xE0B0A9,
    0xE0B0AA, 0xE0B0BA, 0xE0B0BD, 0xE0B0BE, 0xE0B198, 0xE0B19B, 0xE0B1A0, 0xE0B1A2, 0xE0B280,
    0xE0B281, 0xE0B285, 0xE0B28D, 0xE0B28E, 0xE0B291, 0xE0B292, 0xE0B2A9, 0xE0B2AA, 0xE0B2B4,
    0xE0B2B5, 0xE0B2BA, 0xE0B2BD, 0xE0B2BE, 0xE0B39E, 0xE0B39F, 0xE0B3A0, 0xE0B3A2, 0xE0B3B1,
    0xE0B3B3, 0xE0B485, 0xE0B48D, 0xE0B48E, 0xE0B491, 0xE0B492, 0xE0B4BB, 0xE0B4BD, 0xE0B4BE,
    0xE0B58E, 0xE0B58F, 0xE0B594, 0xE0B597, 0xE0B59F, 0xE0B5A2, 0xE0B5BA, 0xE0B5C0, 0xE0B685,
    0xE0B697, 0xE0B69A, 0xE0B6B2, 0xE0B6B3, 0xE0B6BC, 0xE0B6BD, 0xE0B6BE, 0xE0B780, 0xE0B787,
    0xE0B881, 0xE0B8B1, 0xE0B8B2, 0xE0B8B4, 0xE0B980, 0xE0B987, 0xE0BA81, 0xE0BA83, 0xE0BA84,
    0xE0BA85, 0xE0BA87, 0xE0BA89, 0xE0BA8A, 0xE0BA8B, 0xE0BA8D, 0xE0BA8E, 0xE0BA94, 0xE0BA98,
    0xE0BA99, 0xE0BAA0, 0xE0BAA1, 0xE0BAA4, 0xE0BAA5, 0xE0BAA6, 0xE0BAA7, 0xE0BAA8, 0xE0BAAA,
    0xE0BAAC, 0xE0BAAD, 0xE0BAB1, 0xE0BAB2, 0xE0BAB4, 0xE0BABD, 0xE0BABE, 0xE0BB80, 0xE0BB85,
    0xE0BB86, 0xE0BB87, 0xE0BB9C, 0xE0BBA0, 0xE0BC80, 0xE0BC81, 0xE0BD80, 0xE0BD88, 0xE0BD89,
    0xE0BDAD, 0xE0BE88, 0xE0BE8D, 0xE18080, 0xE180AB, 0xE180BF, 0xE180C0, 0xE18190, 0xE18196,
    0xE1819A, 0xE1819E, 0xE181A1, 0xE181A2, 0xE181A5, 0xE181A7, 0xE181AE, 0xE181B1, 0xE181B5,
    0xE18282, 0xE1828E, 0xE1828F, 0xE182A0, 0xE18386, 0xE18387, 0xE18388, 0xE1838D, 0xE1838E,
    0xE18390, 0xE183BB, 0xE183BC, 0xE18989, 0xE1898A, 0xE1898E, 0xE18990, 0xE18997, 0xE18998,
    0xE18999, 0xE1899A, 0xE1899E, 0xE189A0, 0xE18A89, 0xE18A8A, 0xE18A8E, 0xE18A90, 0xE18AB1,
    0xE18AB2, 0xE18AB6, 0xE18AB8, 0xE18ABF, 0xE18B80, 0xE18B81, 0xE18B82, 0xE18B86, 0xE18B88,
    0xE18B97, 0xE18B98, 0xE18C91, 0xE18C92, 0xE18C96, 0xE18C98, 0xE18D9B, 0xE18E80, 0xE18E90,
    0xE18EA0, 0xE18FB6, 0xE18FB8, 0xE18FBE, 0xE19081, 0xE199AD, 0xE199AF, 0xE199C0, 0xE19A81,
    0xE19A9B, 0xE19AA0, 0xE19BAB, 0xE19BAE, 0xE19BB9, 0xE19C80, 0xE19C8D, 0xE19C8E, 0xE19C92,
    0xE19CA0, 0xE19CB2, 0xE19D80, 0xE19D92, 0xE19DA0, 0xE19DAD, 0xE19DAE, 0xE19DB1, 0xE19E80,
    0xE19EB4, 0xE19F97, 0xE19F98, 0xE19F9C, 0xE19F9D, 0xE1A0A0, 0xE1A1B8, 0xE1A280, 0xE1A2A9,
    0xE1A2AA, 0xE1A2AB, 0xE1A2B0, 0xE1A3B6, 0xE1A480, 0xE1A49F, 0xE1A590, 0xE1A5AE, 0xE1A5B0,
    0xE1A5B5, 0xE1A680, 0xE1A6AC, 0xE1A6B0, 0xE1A78A, 0xE1A880, 0xE1A897, 0xE1A8A0, 0xE1A995,
    0xE1AAA7, 0xE1AAA8, 0xE1AC85, 0xE1ACB4, 0xE1AD85, 0xE1AD8C, 0xE1AE83, 0xE1AEA1, 0xE1AEAE,
    0xE1AEB0, 0xE1AEBA, 0xE1AFA6, 0xE1B080, 0xE1B0A4, 0xE1B18D, 0xE1B190, 0xE1B19A, 0xE1B1BE,
    0xE1B280, 0xE1B289, 0xE1B3A9, 0xE1B3AD, 0xE1B3AE, 0xE1B3B2, 0xE1B3B5, 0xE1B3B7, 0xE1B480,
    0xE1B6C0, 0xE1B880, 0xE1BC96, 0xE1BC98, 0xE1BC9E, 0xE1BCA0, 0xE1BD86, 0xE1BD88, 0xE1BD8E,
    0xE1BD90, 0xE1BD98, 0xE1BD99, 0xE1BD9A, 0xE1BD9B, 0xE1BD9C, 0xE1BD9D, 0xE1BD9E, 0xE1BD9F,
    0xE1BDBE, 0xE1BE80, 0xE1BEB5, 0xE1BEB6, 0xE1BEBD, 0xE1BEBE, 0xE1BEBF, 0xE1BF82, 0xE1BF85,
    0xE1BF86, 0xE1BF8D, 0xE1BF90, 0xE1BF94, 0xE1BF96, 0xE1BF9C, 0xE1BFA0, 0xE1BFAD, 0xE1BFB2,
    0xE1BFB5, 0xE1BFB6, 0xE1BFBD, 0xE281B1, 0xE281B2, 0xE281BF, 0xE281C0, 0xE28290, 0xE2829D,
    0xE28482, 0xE28483, 0xE28487, 0xE28488, 0xE2848A, 0xE28494, 0xE28495, 0xE28496, 0xE28498,
    0xE2849E, 0xE284A4, 0xE284A5, 0xE284A6, 0xE284A7, 0xE284A8, 0xE284A9, 0xE284AA, 0xE284BA,
    0xE284BC, 0xE284C0, 0xE28585, 0xE2858A, 0xE2858E, 0xE2858F, 0xE285A0, 0xE28689, 0xE2B080,
    0xE2B0AF, 0xE2B0B0, 0xE2B19F, 0xE2B1A0, 0xE2B3A5, 0xE2B3AB, 0xE2B3AF, 0xE2B3B2, 0xE2B3B4,
    0xE2B480, 0xE2B4A6, 0xE2B4A7, 0xE2B4A8, 0xE2B4AD, 0xE2B4AE, 0xE2B4B0, 0xE2B5A8, 0xE2B5AF,
    0xE2B5B0, 0xE2B680, 0xE2B697, 0xE2B6A0, 0xE2B6A7, 0xE2B6A8, 0xE2B6AF, 0xE2B6B0, 0xE2B6B7,
    0xE2B6B8, 0xE2B6BF, 0xE2B780, 0xE2B787, 0xE2B788, 0xE2B78F, 0xE2B790, 0xE2B797, 0xE2B798,
    0xE2B79F, 0xE38085, 0xE38088, 0xE380A1, 0xE380AA, 0xE380B1, 0xE380B6, 0xE380B8, 0xE380BD,
    0xE38181, 0xE38297, 0xE3829B, 0xE382A0, 0xE382A1, 0xE383BB, 0xE383BC, 0xE383C0, 0xE38485,
    0xE384AE, 0xE384B1, 0xE3868F, 0xE386A0, 0xE386BB, 0xE387B0, 0xE387C0, 0xE39080, 0xE4B6B6,
    0xE4B880, 0xE9BF96, 0xEA8080, 0xEA928D, 0xEA9390, 0xEA93BE, 0xEA9480, 0xEA988D, 0xEA9890,
    0xEA98A0, 0xEA98AA, 0xEA98AC, 0xEA9980, 0xEA99AF, 0xEA99BF, 0xEA99C0, 0xEA9A80, 0xEA9A9E,
    0xEA9AA0, 0xEA9BB0, 0xEA9C97, 0xEA9CA0, 0xEA9CA2, 0xEA9E89, 0xEA9E8B, 0xEA9EAF, 0xEA9EB0,
    0xEA9EB8, 0xEA9FB7, 0xEAA082, 0xEAA083, 0xEAA086, 0xEAA087, 0xEAA08B, 0xEAA08C, 0xEAA0A3,
    0xEAA180, 0xEAA1B4, 0xEAA282, 0xEAA2B4, 0xEAA3B2, 0xEAA3B8, 0xEAA3BB, 0xEAA3BC, 0xEAA3BD,
    0xEAA3BE, 0xEAA48A, 0xEAA4A6, 0xEAA4B0, 0xEAA587, 0xEAA5A0, 0xEAA5BD, 0xEAA684, 0xEAA6B3,
    0xEAA78F, 0xEAA790, 0xEAA7A0, 0xEAA7A5, 0xEAA7A6, 0xEAA7B0, 0xEAA7BA, 0xEAA7BF, 0xEAA880,
    0xEAA8A9, 0xEAA980, 0xEAA983, 0xEAA984, 0xEAA98C, 0xEAA9A0, 0xEAA9B7, 0xEAA9BA, 0xEAA9BB,
    0xEAA9BE, 0xEAAAB0, 0xEAAAB1, 0xEAAAB2, 0xEAAAB5, 0xEAAAB7, 0xEAAAB9, 0xEAAABE, 0xEAAB80,
    0xEAAB81, 0xEAAB82, 0xEAAB83, 0xEAAB9B, 0xEAAB9E, 0xEAABA0, 0xEAABAB, 0xEAABB2, 0xEAABB5,
    0xEAAC81, 0xEAAC87, 0xEAAC89, 0xEAAC8F, 0xEAAC91, 0xEAAC97, 0xEAACA0, 0xEAACA7, 0xEAACA8,
    0xEAACAF, 0xEAACB0, 0xEAAD9B, 0xEAAD9C, 0xEAADA6, 0xEAADB0, 0xEAAEC0, 0xEAAF80, 0xEAAFA3,
    0xEAB080, 0xED9EA4, 0xED9EB0, 0xED9F87, 0xED9F8B, 0xED9FBC, 0xEFA480, 0xEFA9AE, 0xEFA9B0,
    0xEFAB9A, 0xEFAC80, 0xEFAC87, 0xEFAC93, 0xEFAC98, 0xEFAC9D, 0xEFAC9E, 0xEFAC9F, 0xEFACA9,
    0xEFACAA, 0xEFACB7, 0xEFACB8, 0xEFACBD, 0xEFACBE, 0xEFACBF, 0xEFAD80, 0xEFAD82, 0xEFAD83,
    0xEFAD85, 0xEFAD86, 0xEFAEB2, 0xEFAF93, 0xEFB4BE, 0xEFB590, 0xEFB690, 0xEFB692, 0xEFB788,
    0xEFB7B0, 0xEFB7BC, 0xEFB9B0, 0xEFB9B5, 0xEFB9B6, 0xEFBBBD, 0xEFBCA1, 0xEFBCBB, 0xEFBD81,
    0xEFBD9B, 0xEFBDA6, 0xEFBEBF, 0xEFBF82, 0xEFBF88, 0xEFBF8A, 0xEFBF90, 0xEFBF92, 0xEFBF98,
    0xEFBF9A, 0xEFBF9D, 0xF0908080, 0xF090808C, 0xF090808D, 0xF09080A7, 0xF09080A8, 0xF09080BB,
    0xF09080BC, 0xF09080BE, 0xF09080BF, 0xF090818E, 0xF0908190, 0xF090819E, 0xF0908280,
    0xF09083BB, 0xF0908580, 0xF09085B5, 0xF0908A80, 0xF0908A9D, 0xF0908AA0, 0xF0908B91,
    0xF0908C80, 0xF0908CA0, 0xF0908CB0, 0xF0908D8B, 0xF0908D90, 0xF0908DB6, 0xF0908E80,
    0xF0908E9E, 0xF0908EA0, 0xF0908F84, 0xF0908F88, 0xF0908F90, 0xF0908F91, 0xF0908F96,
    0xF0909080, 0xF090929E, 0xF09092B0, 0xF0909394, 0xF0909398, 0xF09093BC, 0xF0909480,
    0xF09094A8, 0xF09094B0, 0xF09095A4, 0xF0909880, 0xF0909CB7, 0xF0909D80, 0xF0909D96,
    0xF0909DA0, 0xF0909DA8, 0xF090A080, 0xF090A086, 0xF090A088, 0xF090A089, 0xF090A08A,
    0xF090A0B6, 0xF090A0B7, 0xF090A0B9, 0xF090A0BC, 0xF090A0BD, 0xF090A0BF, 0xF090A196,
    0xF090A1A0, 0xF090A1B7, 0xF090A280, 0xF090A29F, 0xF090A3A0, 0xF090A3B3, 0xF090A3B4,
    0xF090A3B6, 0xF090A480, 0xF090A496, 0xF090A4A0, 0xF090A4BA, 0xF090A680, 0xF090A6B8,
    0xF090A6BE, 0xF090A6C0, 0xF090A880, 0xF090A881, 0xF090A890, 0xF090A894, 0xF090A895,
    0xF090A898, 0xF090A899, 0xF090A8B4, 0xF090A9A0, 0xF090A9BD, 0xF090AA80, 0xF090AA9D,
    0xF090AB80, 0xF090AB88, 0xF090AB89, 0xF090ABA5, 0xF090AC80, 0xF090ACB6, 0xF090AD80,
    0xF090AD96, 0xF090ADA0, 0xF090ADB3, 0xF090AE80, 0xF090AE92, 0xF090B080, 0xF090B189,
    0xF090B280, 0xF090B2B3, 0xF090B380, 0xF090B3B3, 0xF0918083, 0xF09180B8, 0xF0918283,
    0xF09182B0, 0xF0918390, 0xF09183A9, 0xF0918483, 0xF09184A7, 0xF0918590, 0xF09185B3,
    0xF09185B6, 0xF09185B7, 0xF0918683, 0xF09186B3, 0xF0918781, 0xF0918785, 0xF091879A,
    0xF091879B, 0xF091879C, 0xF091879D, 0xF0918880, 0xF0918892, 0xF0918893, 0xF09188AC,
    0xF0918A80, 0xF0918A87, 0xF0918A88, 0xF0918A89, 0xF0918A8A, 0xF0918A8E, 0xF0918A8F,
    0xF0918A9E, 0xF0918A9F, 0xF0918AA9, 0xF0918AB0, 0xF0918B9F, 0xF0918C85, 0xF0918C8D,
    0xF0918C8F, 0xF0918C91, 0xF0918C93, 0xF0918CA9, 0xF0918CAA, 0xF0918CB1, 0xF0918CB2,
    0xF0918CB4, 0xF0918CB5, 0xF0918CBA, 0xF0918CBD, 0xF0918CBE, 0xF0918D90, 0xF0918D91,
    0xF0918D9D, 0xF0918DA2, 0xF0919080, 0xF09190B5, 0xF0919187, 0xF091918B, 0xF0919280,
    0xF09192B0, 0xF0919384, 0xF0919386, 0xF0919387, 0xF0919388, 0xF0919680, 0xF09196AF,
    0xF0919798, 0xF091979C, 0xF0919880, 0xF09198B0, 0xF0919984, 0xF0919985, 0xF0919A80,
    0xF0919AAB, 0xF0919C80, 0xF0919C9A, 0xF091A2A0, 0xF091A3A0, 0xF091A3BF, 0xF091A3C0,
    0xF091AB80, 0xF091ABB9, 0xF091B080, 0xF091B089, 0xF091B08A, 0xF091B0AF, 0xF091B180,
    0xF091B181, 0xF091B1B2, 0xF091B290, 0xF0928080, 0xF0928E9A, 0xF0929080, 0xF09291AF,
    0xF0929280, 0xF0929584, 0xF0938080, 0xF09390AF, 0xF0949080, 0xF0949987, 0xF096A080,
    0xF096A8B9, 0xF096A980, 0xF096A99F, 0xF096AB90, 0xF096ABAE, 0xF096AC80, 0xF096ACB0,
    0xF096AD80, 0xF096AD84, 0xF096ADA3, 0xF096ADB8, 0xF096ADBD, 0xF096AE90, 0xF096BC80,
    0xF096BD85, 0xF096BD90, 0xF096BD91, 0xF096BE93, 0xF096BEA0, 0xF096BFA0, 0xF096BFA1,
    0xF0978080, 0xF0989FAD, 0xF098A080, 0xF098ABB3, 0xF09B8080, 0xF09B8082, 0xF09BB080,
    0xF09BB1AB, 0xF09BB1B0, 0xF09BB1BD, 0xF09BB280, 0xF09BB289, 0xF09BB290, 0xF09BB29A,
    0xF09D9080, 0xF09D9195, 0xF09D9196, 0xF09D929D, 0xF09D929E, 0xF09D92A0, 0xF09D92A2,
    0xF09D92A3, 0xF09D92A5, 0xF09D92A7, 0xF09D92A9, 0xF09D92AD, 0xF09D92AE, 0xF09D92BA,
    0xF09D92BB, 0xF09D92BC, 0xF09D92BD, 0xF09D9384, 0xF09D9385, 0xF09D9486, 0xF09D9487,
    0xF09D948B, 0xF09D948D, 0xF09D9495, 0xF09D9496, 0xF09D949D, 0xF09D949E, 0xF09D94BA,
    0xF09D94BB, 0xF09D94BF, 0xF09D9580, 0xF09D9585, 0xF09D9586, 0xF09D9587, 0xF09D958A,
    0xF09D9591, 0xF09D9592, 0xF09D9AA6, 0xF09D9AA8, 0xF09D9B81, 0xF09D9B82, 0xF09D9B9B,
    0xF09D9B9C, 0xF09D9BBB, 0xF09D9BBC, 0xF09D9C95, 0xF09D9C96, 0xF09D9CB5, 0xF09D9CB6,
    0xF09D9D8F, 0xF09D9D90, 0xF09D9DAF, 0xF09D9DB0, 0xF09D9E89, 0xF09D9E8A, 0xF09D9EA9,
    0xF09D9EAA, 0xF09D9F83, 0xF09D9F84, 0xF09D9F8C, 0xF09EA080, 0xF09EA385, 0xF09EA480,
    0xF09EA584, 0xF09EB880, 0xF09EB884, 0xF09EB885, 0xF09EB8A0, 0xF09EB8A1, 0xF09EB8A3,
    0xF09EB8A4, 0xF09EB8A5, 0xF09EB8A7, 0xF09EB8A8, 0xF09EB8A9, 0xF09EB8B3, 0xF09EB8B4,
    0xF09EB8B8, 0xF09EB8B9, 0xF09EB8BA, 0xF09EB8BB, 0xF09EB8BC, 0xF09EB982, 0xF09EB983,
    0xF09EB987, 0xF09EB988, 0xF09EB989, 0xF09EB98A, 0xF09EB98B, 0xF09EB98C, 0xF09EB98D,
    0xF09EB990, 0xF09EB991, 0xF09EB993, 0xF09EB994, 0xF09EB995, 0xF09EB997, 0xF09EB998,
    0xF09EB999, 0xF09EB99A, 0xF09EB99B, 0xF09EB99C, 0xF09EB99D, 0xF09EB99E, 0xF09EB99F,
    0xF09EB9A0, 0xF09EB9A1, 0xF09EB9A3, 0xF09EB9A4, 0xF09EB9A5, 0xF09EB9A7, 0xF09EB9AB,
    0xF09EB9AC, 0xF09EB9B3, 0xF09EB9B4, 0xF09EB9B8, 0xF09EB9B9, 0xF09EB9BD, 0xF09EB9BE,
    0xF09EB9BF, 0xF09EBA80, 0xF09EBA8A, 0xF09EBA8B, 0xF09EBA9C, 0xF09EBAA1, 0xF09EBAA4,
    0xF09EBAA5, 0xF09EBAAA, 0xF09EBAAB, 0xF09EBABC, 0xF0A08080, 0xF0AA9B97, 0xF0AA9C80,
    0xF0AB9CB5, 0xF0AB9D80, 0xF0ABA09E, 0xF0ABA0A0, 0xF0ACBAA2, 0xF0AFA080, 0xF0AFA89E]

def identifierContinue : CharSet where
  edges := #[
    0x30, 0x3A, 0x41, 0x5B, 0x5F, 0x60, 0x61, 0x7B, 0xC2AA, 0xC2AB, 0xC2B5, 0xC2B6, 0xC2B7,
    0xC2B8, 0xC2BA, 0xC2BB, 0xC380, 0xC397, 0xC398, 0xC3B7, 0xC3B8, 0xC6C0, 0xC780, 0xCB82,
    0xCB86, 0xCB92, 0xCBA0, 0xCBA5, 0xCBAC, 0xCBAD, 0xCBAE, 0xCBAF, 0xCC80, 0xCDB5, 0xCDB6,
    0xCDB8, 0xCDBA, 0xCDBE, 0xCDBF, 0xCDC0, 0xCE86, 0xCE8B, 0xCE8C, 0xCE8D, 0xCE8E, 0xCEA2,
    0xCEA3, 0xCFB6, 0xCFB7, 0xD282, 0xD283, 0xD288, 0xD28A, 0xD4B0, 0xD4B1, 0xD597, 0xD599,
    0xD59A, 0xD5A1, 0xD688, 0xD691, 0xD6BE, 0xD6BF, 0xD6C0, 0xD781, 0xD783, 0xD784, 0xD786,
    0xD787, 0xD788, 0xD790, 0xD7AB, 0xD7B0, 0xD7B3, 0xD890, 0xD89B, 0xD8A0, 0xD8C0, 0xD980,
    0xD9AA, 0xD9AE, 0xDB94, 0xDB95, 0xDB9D, 0xDB9F, 0xDBA9, 0xDBAA, 0xDBBD, 0xDBBF, 0xDBC0,
    0xDC90, 0xDD8B, 0xDD8D, 0xDEB2, 0xDF80, 0xDFB6, 0xDFBA, 0xDFBB, 0xE0A080, 0xE0A0AE, 0xE0A180,
    0xE0A19C, 0xE0A2A0, 0xE0A2B5, 0xE0A2B6, 0xE0A2BE, 0xE0A394, 0xE0A3A2, 0xE0A3A3, 0xE0A5A4,
    0xE0A5A6, 0xE0A5B0, 0xE0A5B1, 0xE0A684, 0xE0A685, 0xE0A68D, 0xE0A68F, 0xE0A691, 0xE0A693,
    0xE0A6A9, 0xE0A6AA, 0xE0A6B1, 0xE0A6B2, 0xE0A6B3, 0xE0A6B6, 0xE0A6BA, 0xE0A6BC, 0xE0A785,
    0xE0A787, 0xE0A789, 0xE0A78B, 0xE0A78F, 0xE0A797, 0xE0A798, 0xE0A79C, 0xE0A79E, 0xE0A79F,
    0xE0A7A4, 0xE0A7A6, 0xE0A7B2, 0xE0A881, 0xE0A884, 0xE0A885, 0xE0A88B, 0xE0A88F, 0xE0A891,
    0xE0A893, 0xE0A8A9, 0xE0A8AA, 0xE0A8B1, 0xE0A8B2, 0xE0A8B4, 0xE0A8B5, 0xE0A8B7, 0xE0A8B8,
    0xE0A8BA, 0xE0A8BC, 0xE0A8BD, 0xE0A8BE, 0xE0A983, 0xE0A987, 0xE0A989, 0xE0A98B, 0xE0A98E,
    0xE0A991, 0xE0A992, 0xE0A999, 0xE0A99D, 0xE0A99E, 0xE0A99F, 0xE0A9A6, 0xE0A9B6, 0xE0AA81,
    0xE0AA84, 0xE0AA85, 0xE0AA8E, 0xE0AA8F, 0xE0AA92, 0xE0AA93, 0xE0AAA9, 0xE0AAAA, 0xE0AAB1,
    0xE0AAB2, 0xE0AAB4, 0xE0AAB5, 0xE0AABA, 0xE0AABC, 0xE0AB86, 0xE0AB87, 0xE0AB8A, 0xE0AB8B,
    0xE0AB8E, 0xE0AB90, 0xE0AB91, 0xE0ABA0, 0xE0ABA4, 0xE0ABA6, 0xE0ABB0, 0xE0ABB9, 0xE0ABBA,
    0xE0AC81, 0xE0AC84, 0xE0AC85, 0xE0AC8D, 0xE0AC8F, 0xE0AC91, 0xE0AC93, 0xE0ACA9, 0xE0ACAA,
    0xE0ACB1, 0xE0ACB2, 0xE0ACB4, 0xE0ACB5, 0xE0ACBA, 0xE0ACBC, 0xE0ACC0, 0xE0AD80, 0xE0AD85,
    0xE0AD87, 0xE0AD89, 0xE0AD8B, 0xE0AD8E, 0xE0AD96, 0xE0AD98, 0xE0AD9C, 0xE0AD9E, 0xE0AD9F,
    0xE0ADA4, 0xE0ADA6, 0xE0ADB0, 0xE0ADB1, 0xE0ADB2, 0xE0AE82, 0xE0AE84, 0xE0AE85, 0xE0AE8B,
    0xE0AE8E, 0xE0AE91, 0xE0AE92, 0xE0AE96, 0xE0AE99, 0xE0AE9B, 0xE0AE9C, 0xE0AE9D, 0xE0AE9E,
    0xE0AEA0, 0xE0AEA3, 0xE0AEA5, 0xE0AEA8, 0xE0AEAB, 0xE0AEAE, 0xE0AEBA, 0xE0AEBE, 0xE0AEC0,
    0xE0AF80, 0xE0AF83, 0xE0AF86, 0xE0AF89, 0xE0AF8A, 0xE0AF8E, 0xE0AF90, 0xE0AF91, 0xE0AF97,
    0xE0AF98, 0xE0AFA6, 0xE0AFB0, 0xE0B080, 0xE0B084, 0xE0B085, 0xE0B08D, 0xE0B08E, 0xE0B091,
    0xE0B092, 0xE0B0A9, 0xE0B0AA, 0xE0B0BA, 0xE0B0BD, 0xE0B185, 0xE0B186, 0xE0B189, 0xE0B18A,
    0xE0B18E, 0xE0B195, 0xE0B197, 0xE0B198, 0xE0B19B, 0xE0B1A0, 0xE0B1A4, 0xE0B1A6, 0xE0B1B0,
    0xE0B280, 0xE0B284, 0xE0B285, 0xE0B28D, 0xE0B28E, 0xE0B291, 0xE0B292, 0xE0B2A9, 0xE0B2AA,
    0xE0B2B4, 0xE0B2B5, 0xE0B2BA, 0xE0B2BC, 0xE0B2C0, 0xE0B380, 0xE0B385, 0xE0B386, 0xE0B389,
    0xE0B38A, 0xE0B38E, 0xE0B395, 0xE0B397, 0xE0B39E, 0xE0B39F, 0xE0B3A0, 0xE0B3A4, 0xE0B3A6,
    0xE0B3B0, 0xE0B3B1, 0xE0B3B3, 0xE0B481, 0xE0B484, 0xE0B485, 0xE0B48D, 0xE0B48E, 0xE0B491,
    0xE0B492, 0xE0B4BB, 0xE0B4BD, 0xE0B585, 0xE0B586, 0xE0B589, 0xE0B58A, 0xE0B58F, 0xE0B594,
    0xE0B598, 0xE0B59F, 0xE0B5A4, 0xE0B5A6, 0xE0B5B0, 0xE0B5BA, 0xE0B5C0, 0xE0B682, 0xE0B684,
    0xE0B685, 0xE0B697, 0xE0B69A, 0xE0B6B2, 0xE0B6B3, 0xE0B6BC, 0xE0B6BD, 0xE0B6BE, 0xE0B780,
    0xE0B787, 0xE0B78A, 0xE0B78B, 0xE0B78F, 0xE0B795, 0xE0B796, 0xE0B797, 0xE0B798, 0xE0B7A0,
    0xE0B7A6, 0xE0B7B0, 0xE0B7B2, 0xE0B7B4, 0xE0B881, 0xE0B8BB, 0xE0B980, 0xE0B98F, 0xE0B990,
    0xE0B99A, 0xE0BA81, 0xE0BA83, 0xE0BA84, 0xE0BA85, 0xE0BA87, 0xE0BA89, 0xE0BA8A, 0xE0BA8B,
    0xE0BA8D, 0xE0BA8E, 0xE0BA94, 0xE0BA98, 0xE0BA99, 0xE0BAA0, 0xE0BAA1, 0xE0BAA4, 0xE0BAA5,
    0xE0BAA6, 0xE0BAA7, 0xE0BAA8, 0xE0BAAA, 0xE0BAAC, 0xE0BAAD, 0xE0BABA, 0xE0BABB, 0xE0BABE,
    0xE0BB80, 0xE0BB85, 0xE0BB86, 0xE0BB87, 0xE0BB88, 0xE0BB8E, 0xE0BB90, 0xE0BB9A, 0xE0BB9C,
    0xE0BBA0, 0xE0BC80, 0xE0BC81, 0xE0BC98, 0xE0BC9A, 0xE0BCA0, 0xE0BCAA, 0xE0BCB5, 0xE0BCB6,
    0xE0BCB7, 0xE0BCB8, 0xE0BCB9, 0xE0BCBA, 0xE0BCBE, 0xE0BCC0, 0xE0BD80, 0xE0BD88, 0xE0BD89,
    0xE0BDAD, 0xE0BDB1, 0xE0BDC0, 0xE0BE80, 0xE0BE85, 0xE0BE86, 0xE0BE98, 0xE0BE99, 0xE0BEBD,
    0xE0BF86, 0xE0BF87, 0xE18080, 0xE180C0, 0xE18180, 0xE1818A, 0xE18190, 0xE1829E, 0xE182A0,
    0xE18386, 0xE18387, 0xE18388, 0xE1838D, 0xE1838E, 0xE18390, 0xE183BB, 0xE183BC, 0xE18989,
    0xE1898A, 0xE1898E, 0xE18990, 0xE18997, 0xE18998, 0xE18999, 0xE1899A, 0xE1899E, 0xE189A0,
    0xE18A89, 0xE18A8A, 0xE18A8E, 0xE18A90, 0xE18AB1, 0xE18AB2, 0xE18AB6, 0xE18AB8, 0xE18ABF,
    0xE18B80, 0xE18B81, 0xE18B82, 0xE18B86, 0xE18B88, 0xE18B97, 0xE18B98, 0xE18C91, 0xE18C92,
    0xE18C96, 0xE18C98, 0xE18D9B, 0xE18D9D, 0xE18DA0, 0xE18DA9, 0xE18DB2, 0xE18E80, 0xE18E90,
    0xE18EA0, 0xE18FB6, 0xE18FB8, 0xE18FBE, 0xE19081, 0xE199AD, 0xE199AF, 0xE199C0, 0xE19A81,
    0xE19A9B, 0xE19AA0, 0xE19BAB, 0xE19BAE, 0xE19BB9, 0xE19C80, 0xE19C8D, 0xE19C8E, 0xE19C95,
    0xE19CA0, 0xE19CB5, 0xE19D80, 0xE19D94, 0xE19DA0, 0xE19DAD, 0xE19DAE, 0xE19DB1, 0xE19DB2,
    0xE19DB4, 0xE19E80, 0xE19F94, 0xE19F97, 0xE19F98, 0xE19F9C, 0xE19F9E, 0xE19FA0, 0xE19FAA,
    0xE1A08B, 0xE1A08E, 0xE1A090, 0xE1A09A, 0xE1A0A0, 0xE1A1B8, 0xE1A280, 0xE1A2AB, 0xE1A2B0,
    0xE1A3B6, 0xE1A480, 0xE1A49F, 0xE1A4A0, 0xE1A4AC, 0xE1A4B0, 0xE1A4BC, 0xE1A586, 0xE1A5AE,
    0xE1A5B0, 0xE1A5B5, 0xE1A680, 0xE1A6AC, 0xE1A6B0, 0xE1A78A, 0xE1A790, 0xE1A79B, 0xE1A880,
    0xE1A89C, 0xE1A8A0, 0xE1A99F, 0xE1A9A0, 0xE1A9BD, 0xE1A9BF, 0xE1A9C0, 0xE1AA80, 0xE1AA8A,
    0xE1AA90, 0xE1AA9A, 0xE1AAA7, 0xE1AAA8, 0xE1AAB0, 0xE1AABE, 0xE1AC80, 0xE1AD8C, 0xE1AD90,
    0xE1AD9A, 0xE1ADAB, 0xE1ADB4, 0xE1AE80, 0xE1AFB4, 0xE1B080, 0xE1B0B8, 0xE1B180, 0xE1B18A,
    0xE1B18D, 0xE1B1BE, 0xE1B280, 0xE1B289, 0xE1B390, 0xE1B393, 0xE1B394, 0xE1B3B7, 0xE1B3B8,
    0xE1B3BA, 0xE1B480, 0xE1B6C0, 0xE1B780, 0xE1B7B6, 0xE1B7BB, 0xE1B7C0, 0xE1B880, 0xE1BC96,
    0xE1BC98, 0xE1BC9E, 0xE1BCA0, 0xE1BD86, 0xE1BD88, 0xE1BD8E, 0xE1BD90, 0xE1BD98, 0xE1BD99,
    0xE1BD9A, 0xE1BD9B, 0xE1BD9C, 0xE1BD9D, 0xE1BD9E, 0xE1BD9F, 0xE1BDBE, 0xE1BE80, 0xE1BEB5,
    0xE1BEB6, 0xE1BEBD, 0xE1BEBE, 0xE1BEBF, 0xE1BF82, 0xE1BF85, 0xE1BF86, 0xE1BF8D, 0xE1BF90,
    0xE1BF94, 0xE1BF96, 0xE1BF9C, 0xE1BFA0, 0xE1BFAD, 0xE1BFB2, 0xE1BFB5, 0xE1BFB6, 0xE1BFBD,
    0xE280BF, 0xE28181, 0xE28194, 0xE28195, 0xE281B1, 0xE281B2, 0xE281BF, 0xE281C0, 0xE28290,
    0xE2829D, 0xE28390, 0xE2839D, 0xE283A1, 0xE283A2, 0xE283A5, 0xE283B1, 0xE28482, 0xE28483,
    0xE28487, 0xE28488, 0xE2848A, 0xE28494, 0xE28495, 0xE28496, 0xE28498, 0xE2849E, 0xE284A4,
    0xE284A5, 0xE284A6, 0xE284A7, 0xE284A8, 0xE284A9, 0xE284AA, 0xE284BA, 0xE284BC, 0xE284C0,
    0xE28585, 0xE2858A, 0xE2858E, 0xE2858F, 0xE285A0, 0xE28689, 0xE2B080, 0xE2B0AF, 0xE2B0B0,
    0xE2B19F, 0xE2B1A0, 0xE2B3A5, 0xE2B3AB, 0xE2B3B4, 0xE2B480, 0xE2B4A6, 0xE2B4A7, 0xE2B4A8,
    0xE2B4AD, 0xE2B4AE, 0xE2B4B0, 0xE2B5A8, 0xE2B5AF, 0xE2B5B0, 0xE2B5BF, 0xE2B5C0, 0xE2B680,
    0xE2B697, 0xE2B6A0, 0xE2B6A7, 0xE2B6A8, 0xE2B6AF, 0xE2B6B0, 0xE2B6B7, 0xE2B6B8, 0xE2B6BF,
    0xE2B780, 0xE2B787, 0xE2B788, 0xE2B78F, 0xE2B790, 0xE2B797, 0xE2B798, 0xE2B79F, 0xE2B7A0,
    0xE2B7C0, 0xE38085, 0xE38088, 0xE380A1, 0xE380B0, 0xE380B1, 0xE380B6, 0xE380B8, 0xE380BD,
    0xE38181, 0xE38297, 0xE38299, 0xE382A0, 0xE382A1, 0xE383BB, 0xE383BC, 0xE383C0, 0xE38485,
    0xE384AE, 0xE384B1, 0xE3868F, 0xE386A0, 0xE386BB, 0xE387B0, 0xE387C0, 0xE39080, 0xE4B6B6,
    0xE4B880, 0xE9BF96, 0xEA8080, 0xEA928D, 0xEA9390, 0xEA93BE, 0xEA9480, 0xEA988D, 0xEA9890,
    0xEA98AC, 0xEA9980, 0xEA99B0, 0xEA99B4, 0xEA99BE, 0xEA99BF, 0xEA99C0, 0xEA9A80, 0xEA9BB2,
    0xEA9C97, 0xEA9CA0, 0xEA9CA2, 0xEA9E89, 0xEA9E8B, 0xEA9EAF, 0xEA9EB0, 0xEA9EB8, 0xEA9FB7,
    0xEAA0A8, 0xEAA180, 0xEAA1B4, 0xEAA280, 0xEAA386, 0xEAA390, 0xEAA39A, 0xEAA3A0, 0xEAA3B8,
    0xEAA3BB, 0xEAA3BC, 0xEAA3BD, 0xEAA3BE, 0xEAA480, 0xEAA4AE, 0xEAA4B0, 0xEAA594, 0xEAA5A0,
    0xEAA5BD, 0xEAA680, 0xEAA781, 0xEAA78F, 0xEAA79A, 0xEAA7A0, 0xEAA7BF, 0xEAA880, 0xEAA8B7,
    0xEAA980, 0xEAA98E, 0xEAA990, 0xEAA99A, 0xEAA9A0, 0xEAA9B7, 0xEAA9BA, 0xEAAAC0, 0xEAAB80,
    0xEAAB83, 0xEAAB9B, 0xEAAB9E, 0xEAABA0, 0xEAABB0, 0xEAABB2, 0xEAABB7, 0xEAAC81, 0xEAAC87,
    0xEAAC89, 0xEAAC8F, 0xEAAC91, 0xEAAC97, 0xEAACA0, 0xEAACA7, 0xEAACA8, 0xEAACAF, 0xEAACB0,
    0xEAAD9B, 0xEAAD9C, 0xEAADA6, 0xEAADB0, 0xEAAEC0, 0xEAAF80, 0xEAAFAB, 0xEAAFAC, 0xEAAFAE,
    0xEAAFB0, 0xEAAFBA, 0xEAB080, 0xED9EA4, 0xED9EB0, 0xED9F87, 0xED9F8B, 0xED9FBC, 0xEFA480,
    0xEFA9AE, 0xEFA9B0, 0xEFAB9A, 0xEFAC80, 0xEFAC87, 0xEFAC93, 0xEFAC98, 0xEFAC9D, 0xEFACA9,
    0xEFACAA, 0xEFACB7, 0xEFACB8, 0xEFACBD, 0xEFACBE, 0xEFACBF, 0xEFAD80, 0xEFAD82, 0xEFAD83,
    0xEFAD85, 0xEFAD86, 0xEFAEB2, 0xEFAF93, 0xEFB4BE, 0xEFB590, 0xEFB690, 0xEFB692, 0xEFB788,
    0xEFB7B0, 0xEFB7BC, 0xEFB880, 0xEFB890, 0xEFB8A0, 0xEFB8B0, 0xEFB8B3, 0xEFB8B5, 0xEFB98D,
    0xEFB990, 0xEFB9B0, 0xEFB9B5, 0xEFB9B6, 0xEFBBBD, 0xEFBC90, 0xEFBC9A, 0xEFBCA1, 0xEFBCBB,
    0xEFBCBF, 0xEFBCC0, 0xEFBD81, 0xEFBD9B, 0xEFBDA6, 0xEFBEBF, 0xEFBF82, 0xEFBF88, 0xEFBF8A,
    0xEFBF90, 0xEFBF92, 0xEFBF98, 0xEFBF9A, 0xEFBF9D, 0xF0908080, 0xF090808C, 0xF090808D,
    0xF09080A7, 0xF09080A8, 0xF09080BB, 0xF09080BC, 0xF09080BE, 0xF09080BF, 0xF090818E,
    0xF0908190, 0xF090819E, 0xF0908280, 0xF09083BB, 0xF0908580, 0xF09085B5, 0xF09087BD,
    0xF09087BE, 0xF0908A80, 0xF0908A9D, 0xF0908AA0, 0xF0908B91, 0xF0908BA0, 0xF0908BA1,
    0xF0908C80, 0xF0908CA0, 0xF0908CB0, 0xF0908D8B, 0xF0908D90, 0xF0908DBB, 0xF0908E80,
    0xF0908E9E, 0xF0908EA0, 0xF0908F84, 0xF0908F88, 0xF0908F90, 0xF0908F91, 0xF0908F96,
    0xF0909080, 0xF090929E, 0xF09092A0, 0xF09092AA, 0xF09092B0, 0xF0909394, 0xF0909398,
    0xF09093BC, 0xF0909480, 0xF09094A8, 0xF09094B0, 0xF09095A4, 0xF0909880, 0xF0909CB7,
    0xF0909D80, 0xF0909D96, 0xF0909DA0, 0xF0909DA8, 0xF090A080, 0xF090A086, 0xF090A088,
    0xF090A089, 0xF090A08A, 0xF090A0B6, 0xF090A0B7, 0xF090A0B9, 0xF090A0BC, 0xF090A0BD,
    0xF090A0BF, 0xF090A196, 0xF090A1A0, 0xF090A1B7, 0xF090A280, 0xF090A29F, 0xF090A3A0,
    0xF090A3B3, 0xF090A3B4, 0xF090A3B6, 0xF090A480, 0xF090A496, 0xF090A4A0, 0xF090A4BA,
    0xF090A680, 0xF090A6B8, 0xF090A6BE, 0xF090A6C0, 0xF090A880, 0xF090A884, 0xF090A885,
    0xF090A887, 0xF090A88C, 0xF090A894, 0xF090A895, 0xF090A898, 0xF090A899, 0xF090A8B4,
    0xF090A8B8, 0xF090A8BB, 0xF090A8BF, 0xF090A8C0, 0xF090A9A0, 0xF090A9BD, 0xF090AA80,
    0xF090AA9D, 0xF090AB80, 0xF090AB88, 0xF090AB89, 0xF090ABA7, 0xF090AC80, 0xF090ACB6,
    0xF090AD80, 0xF090AD96, 0xF090ADA0, 0xF090ADB3, 0xF090AE80, 0xF090AE92, 0xF090B080,
    0xF090B189, 0xF090B280, 0xF090B2B3, 0xF090B380, 0xF090B3B3, 0xF0918080, 0xF0918187,
    0xF09181A6, 0xF09181B0, 0xF09181BF, 0xF09182BB, 0xF0918390, 0xF09183A9, 0xF09183B0,
    0xF09183BA, 0xF0918480, 0xF09184B5, 0xF09184B6, 0xF09184C0, 0xF0918590, 0xF09185B4,
    0xF09185B6, 0xF09185B7, 0xF0918680, 0xF0918785, 0xF091878A, 0xF091878D, 0xF0918790,
    0xF091879B, 0xF091879C, 0xF091879D, 0xF0918880, 0xF0918892, 0xF0918893, 0xF09188B8,
    0xF09188BE, 0xF09188BF, 0xF0918A80, 0xF0918A87, 0xF0918A88, 0xF0918A89, 0xF0918A8A,
    0xF0918A8E, 0xF0918A8F, 0xF0918A9E, 0xF0918A9F, 0xF0918AA9, 0xF0918AB0, 0xF0918BAB,
    0xF0918BB0, 0xF0918BBA, 0xF0918C80, 0xF0918C84, 0xF0918C85, 0xF0918C8D, 0xF0918C8F,
    0xF0918C91, 0xF0918C93, 0xF0918CA9, 0xF0918CAA, 0xF0918CB1, 0xF0918CB2, 0xF0918CB4,
    0xF0918CB5, 0xF0918CBA, 0xF0918CBC, 0xF0918CC0, 0xF0918D80, 0xF0918D85, 0xF0918D87,
    0xF0918D89, 0xF0918D8B, 0xF0918D8E, 0xF0918D90, 0xF0918D91, 0xF0918D97, 0xF0918D98,
    0xF0918D9D, 0xF0918DA4, 0xF0918DA6, 0xF0918DAD, 0xF0918DB0, 0xF0918DB5, 0xF0919080,
    0xF09190C0, 0xF0919180, 0xF091918B, 0xF0919190, 0xF091919A, 0xF0919280, 0xF0919386,
    0xF0919387, 0xF0919388, 0xF0919390, 0xF091939A, 0xF0919680, 0xF09196B6, 0xF09196B8,
    0xF0919781, 0xF0919798, 0xF091979E, 0xF0919880, 0xF0919981, 0xF0919984, 0xF0919985,
    0xF0919990, 0xF091999A, 0xF0919A80, 0xF0919AB8, 0xF0919B80, 0xF0919B8A, 0xF0919C80,
    0xF0919C9A, 0xF0919C9D, 0xF0919CAC, 0xF0919CB0, 0xF0919CBA, 0xF091A2A0, 0xF091A3AA,
    0xF091A3BF, 0xF091A3C0, 0xF091AB80, 0xF091ABB9, 0xF091B080, 0xF091B089, 0xF091B08A,
    0xF091B0B7, 0xF091B0B8, 0xF091B0C0, 0xF091B180, 0xF091B181, 0xF091B190, 0xF091B19A,
    0xF091B1B2, 0xF091B290, 0xF091B292, 0xF091B2A8, 0xF091B2A9, 0xF091B2B7, 0xF0928080,
    0xF0928E9A, 0xF0929080, 0xF09291AF, 0xF0929280, 0xF0929584, 0xF0938080, 0xF09390AF,
    0xF0949080, 0xF0949987, 0xF096A080, 0xF096A8B9, 0xF096A980, 0xF096A99F, 0xF096A9A0,
    0xF096A9AA, 0xF096AB90, 0xF096ABAE, 0xF096ABB0, 0xF096ABB5, 0xF096AC80, 0xF096ACB7,
    0xF096AD80, 0xF096AD84, 0xF096AD90, 0xF096AD9A, 0xF096ADA3, 0xF096ADB8, 0xF096ADBD,
    0xF096AE90, 0xF096BC80, 0xF096BD85, 0xF096BD90, 0xF096BDBF, 0xF096BE8F, 0xF096BEA0,
    0xF096BFA0, 0xF096BFA1, 0xF0978080, 0xF0989FAD, 0xF098A080, 0xF098ABB3, 0xF09B8080,
    0xF09B8082, 0xF09BB080, 0xF09BB1AB, 0xF09BB1B0, 0xF09BB1BD, 0xF09BB280, 0xF09BB289,
    0xF09BB290, 0xF09BB29A, 0xF09BB29D, 0xF09BB29F, 0xF09D85A5, 0xF09D85AA, 0xF09D85AD,
    0xF09D85B3, 0xF09D85BB, 0xF09D8683, 0xF09D8685, 0xF09D868C, 0xF09D86AA, 0xF09D86AE,
    0xF09D8982, 0xF09D8985, 0xF09D9080, 0xF09D9195, 0xF09D9196, 0xF09D929D, 0xF09D929E,
    0xF09D92A0, 0xF09D92A2, 0xF09D92A3, 0xF09D92A5, 0xF09D92A7, 0xF09D92A9, 0xF09D92AD,
    0xF09D92AE, 0xF09D92BA, 0xF09D92BB, 0xF09D92BC, 0xF09D92BD, 0xF09D9384, 0xF09D9385,
    0xF09D9486, 0xF09D9487, 0xF09D948B, 0xF09D948D, 0xF09D9495, 0xF09D9496, 0xF09D949D,
    0xF09D949E, 0xF09D94BA, 0xF09D94BB, 0xF09D94BF, 0xF09D9580, 0xF09D9585, 0xF09D9586,
    0xF09D9587, 0xF09D958A, 0xF09D9591, 0xF09D9592, 0xF09D9AA6, 0xF09D9AA8, 0xF09D9B81,
    0xF09D9B82, 0xF09D9B9B, 0xF09D9B9C, 0xF09D9BBB, 0xF09D9BBC, 0xF09D9C95, 0xF09D9C96,
    0xF09D9CB5, 0xF09D9CB6, 0xF09D9D8F, 0xF09D9D90, 0xF09D9DAF, 0xF09D9DB0, 0xF09D9E89,
    0xF09D9E8A, 0xF09D9EA9, 0xF09D9EAA, 0xF09D9F83, 0xF09D9F84, 0xF09D9F8C, 0xF09D9F8E,
    0xF09D9FC0, 0xF09DA880, 0xF09DA8B7, 0xF09DA8BB, 0xF09DA9AD, 0xF09DA9B5, 0xF09DA9B6,
    0xF09DAA84, 0xF09DAA85, 0xF09DAA9B, 0xF09DAAA0, 0xF09DAAA1, 0xF09DAAB0, 0xF09E8080,
    0xF09E8087, 0xF09E8088, 0xF09E8099, 0xF09E809B, 0xF09E80A2, 0xF09E80A3, 0xF09E80A5,
    0xF09E80A6, 0xF09E80AB, 0xF09EA080, 0xF09EA385, 0xF09EA390, 0xF09EA397, 0xF09EA480,
    0xF09EA58B, 0xF09EA590, 0xF09EA59A, 0xF09EB880, 0xF09EB884, 0xF09EB885, 0xF09EB8A0,
    0xF09EB8A1, 0xF09EB8A3, 0xF09EB8A4, 0xF09EB8A5, 0xF09EB8A7, 0xF09EB8A8, 0xF09EB8A9,
    0xF09EB8B3, 0xF09EB8B4, 0xF09EB8B8, 0xF09EB8B9, 0xF09EB8BA, 0xF09EB8BB, 0xF09EB8BC,
    0xF09EB982, 0xF09EB983, 0xF09EB987, 0xF09EB988, 0xF09EB989, 0xF09EB98A, 0xF09EB98B,
    0xF09EB98C, 0xF09EB98D, 0xF09EB990, 0xF09EB991, 0xF09EB993, 0xF09EB994, 0xF09EB995,
    0xF09EB997, 0xF09EB998, 0xF09EB999, 0xF09EB99A, 0xF09EB99B, 0xF09EB99C, 0xF09EB99D,
    0xF09EB99E, 0xF09EB99F, 0xF09EB9A0, 0xF09EB9A1, 0xF09EB9A3, 0xF09EB9A4, 0xF09EB9A5,
    0xF09EB9A7, 0xF09EB9AB, 0xF09EB9AC, 0xF09EB9B3, 0xF09EB9B4, 0xF09EB9B8, 0xF09EB9B9,
    0xF09EB9BD, 0xF09EB9BE, 0xF09EB9BF, 0xF09EBA80, 0xF09EBA8A, 0xF09EBA8B, 0xF09EBA9C,
    0xF09EBAA1, 0xF09EBAA4, 0xF09EBAA5, 0xF09EBAAA, 0xF09EBAAB, 0xF09EBABC, 0xF0A08080,
    0xF0AA9B97, 0xF0AA9C80, 0xF0AB9CB5, 0xF0AB9D80, 0xF0ABA09E, 0xF0ABA0A0, 0xF0ACBAA2,
    0xF0AFA080, 0xF0AFA89E, 0xF3A08480, 0xF3A087B0]

/-- The size of the form that `c :: s` starts with, if it is in a set. -/
def CharSet.formSize? (set : CharSet) (c : UInt8) (s : Bytes) : Option Nat :=
  let size := formSize c
  if set.contains (formNumber ((c :: s).take size)) then some size else none

end DefOut.Text
