import PairwiseId.Unicode.Table

/- Combining marks and their canonical classes. -/
namespace PairwiseId.Unicode

set_option autoImplicit false

def marks : Ranges := Ranges.ofText
  ["300-33f 342 346-34e 350-36f 483-489 591-5bd 5bf 5c1-5c2 5c4-5c5 5c7 610-61a 64b-65f 670",
   "6d6-6dc 6df-6e4 6e7-6e8 6ea-6ed 711 730-74a 7a6-7b0 7eb-7f3 7fd 816-819 81b-823 825-827",
   "829-82d 859-85b 897-89f 8ca-8e1 8e3-903 93a-93c 93e-94f 951-957 962-963 981-983 9bc",
   "9be-9c4 9c7-9c8 9cb-9cd 9d7 9e2-9e3 9fe a01-a03 a3c a3e-a42 a47-a48 a4b-a4d a51 a70-a71",
   "a75 a81-a83 abc abe-ac5 ac7-ac9 acb-acd ae2-ae3 afa-aff b01-b03 b3c b3e-b44 b47-b48",
   "b4b-b4d b55-b57 b62-b63 b82 bbe-bc2 bc6-bc8 bca-bcd bd7 c00-c04 c3c c3e-c44 c46-c48",
   "c4a-c4d c55-c56 c62-c63 c81-c83 cbc cbe-cc4 cc6-cc8 cca-ccd cd5-cd6 ce2-ce3 d00-d03",
   "d3b-d3c d3e-d44 d46-d48 d4a-d4d d57 d62-d63 d81-d83 dca dcf-dd4 dd6 dd8-ddf df2-df3 e31",
   "e34-e3a e47-e4e eb1 eb4-ebc ec8-ece f18-f19 f35 f37 f39 f3e-f3f f71-f72 f74 f7a-f80",
   "f82-f84 f86-f87 f8d-f92 f94-f97 f99-f9c f9e-fa1 fa3-fa6 fa8-fab fad-fb8 fba-fbc fc6",
   "102b-103e 1056-1059 105e-1060 1062-1064 1067-106d 1071-1074 1082-108d 108f 109a-109d",
   "135d-135f 1712-1715 1732-1734 1752-1753 1772-1773 17b6-17d3 17dd 1885-1886 18a9 1920-192b",
   "1930-193b 1a17-1a1b 1a55-1a5e 1a60-1a7c 1a7f 1ab0-1add 1ae0-1aeb 1b00-1b04 1b34-1b44",
   "1b6b-1b73 1b80-1b82 1ba1-1bad 1be6-1bf3 1c24-1c37 1cd0-1cd2 1cd4-1ce8 1ced 1cf4 1cf7-1cf9",
   "1dc0-1dff 20d0-20f0 2cef-2cf1 2d7f 2de0-2dff 302a-302f 3099-309a a66f-a672 a674-a67d",
   "a69e-a69f a6f0-a6f1 a802 a806 a80b a823-a827 a82c a880-a881 a8b4-a8c5 a8e0-a8f1 a8ff",
   "a926-a92d a947-a953 a980-a983 a9b3-a9c0 a9e5 aa29-aa36 aa43 aa4c-aa4d aa7b-aa7d aab0",
   "aab2-aab4 aab7-aab8 aabe-aabf aac1 aaeb-aaef aaf5-aaf6 abe3-abea abec-abed fb1e fe20-fe2f",
   "101fd 102e0 10376-1037a 10a01-10a03 10a05-10a06 10a0c-10a0f 10a38-10a3a 10a3f 10ae5-10ae6",
   "10d24-10d27 10d69-10d6d 10eab-10eac 10efa-10eff 10f46-10f50 10f82-10f85 11000-11002",
   "11038-11046 11070 11073-11074 1107f-11082 110b0-110ba 110c2 11100-11102 11127-11134",
   "11145-11146 11173 11180-11182 111b3-111c0 111c9-111cc 111ce-111cf 1122c-11237 1123e 11241",
   "112df-112ea 11300-11303 1133b-1133c 1133e-11344 11347-11348 1134b-1134d 11357 11362-11363",
   "11366-1136c 11370-11374 113bb-113c0 113ce 113d0 113d2 113e1-113e2 11435-11446 1145e",
   "114b0-114c3 115af-115b5 115b8-115c0 115dc-115dd 11630-11640 116ab-116b7 1171d-1172b",
   "1182c-1183a 11930-11935 11937-11938 1193b-1193e 11940 11942-11943 119d1-119d7 119da-119e0",
   "119e4 11a01-11a0a 11a33-11a39 11a3b-11a3e 11a47 11a51-11a5b 11a8a-11a99 11b60 11b62-11b64",
   "11b66 11c2f-11c36 11c38-11c3f 11c92-11ca7 11ca9-11cb6 11d31-11d36 11d3a 11d3c-11d3d",
   "11d3f-11d45 11d47 11d8a-11d8e 11d90-11d91 11d93-11d97 11ef3-11ef6 11f00-11f01 11f36-11f3a",
   "11f40 11f42 11f5a 13440 13447-13455 1611e-16129 1612d-1612f 16af0-16af4 16b30-16b36 16f4f",
   "16f51-16f87 16f8f-16f92 16fe4 16ff0-16ff1 1bc9d-1bc9e 1cf00-1cf2d 1cf30-1cf46 1d165-1d169",
   "1d16d-1d172 1d17b-1d182 1d185-1d18b 1d1aa-1d1ad 1d242-1d244 1da00-1da36 1da3b-1da6c 1da75",
   "1da84 1da9b-1da9f 1daa1-1daaf 1e000-1e006 1e008-1e018 1e01b-1e021 1e023-1e024 1e026-1e02a",
   "1e08f 1e130-1e136 1e2ae 1e2ec-1e2ef 1e4ec-1e4ef 1e5ee-1e5ef 1e6e3 1e6e6 1e6ee-1e6ef 1e6f5",
   "1e8d0-1e8d6 1e944-1e94a"]

-- Marks of canonical class 9, which suppress the vowel of a consonant.
def virama : Ranges := Ranges.ofText
  ["94d 9cd a4d acd b4d bcd c4d ccd d3b-d3c d4d dca e3a eba f84 1039-103a 1714-1715 1734 17d2",
   "1a60 1b44 1baa-1bab 1bf2-1bf3 2d7f a806 a82c a8c4 a953 a9c0 aaf6 abed 10a3f 11046 11070",
   "1107f 110b9 11133-11134 111c0 11235 112ea 1134d 11442 114c2 115bf 1163f 116b6 1172b 11839",
   "1193d-1193e 119e0 11a34 11a47 11a99 11c3f 11d44-11d45 11d97"]

def combiningClasses : List (Nat × Ranges) :=
  [(1, Ranges.ofText ["334-338 1cd4 1ce2-1ce8 20d2-20d3 20d8-20da 20e5-20e6 20ea-20eb 10a39 16af0-16af4",
     "1bc9e 1d167-1d169"]),
   (6, Ranges.ofText ["16ff0-16ff1"]),
   (7, Ranges.ofText ["93c 9bc a3c abc b3c c3c cbc 1037 1b34 1be6 1c37 a9b3 110ba 11173 111ca 11236",
     "112e9 1133b-1133c 11446 114c3 115c0 116b7 1183a 11943 11d42 1e94a"]),
   (8, Ranges.ofText ["3099-309a"]),
   (10, Ranges.ofText ["5b0"]),
   (11, Ranges.ofText ["5b1"]),
   (12, Ranges.ofText ["5b2"]),
   (13, Ranges.ofText ["5b3"]),
   (14, Ranges.ofText ["5b4"]),
   (15, Ranges.ofText ["5b5"]),
   (16, Ranges.ofText ["5b6"]),
   (17, Ranges.ofText ["5b7"]),
   (18, Ranges.ofText ["5b8 5c7"]),
   (19, Ranges.ofText ["5b9-5ba"]),
   (20, Ranges.ofText ["5bb"]),
   (21, Ranges.ofText ["5bc"]),
   (22, Ranges.ofText ["5bd"]),
   (23, Ranges.ofText ["5bf"]),
   (24, Ranges.ofText ["5c1"]),
   (25, Ranges.ofText ["5c2"]),
   (26, Ranges.ofText ["fb1e"]),
   (27, Ranges.ofText ["64b 8f0"]),
   (28, Ranges.ofText ["64c 8f1"]),
   (29, Ranges.ofText ["64d 8f2"]),
   (30, Ranges.ofText ["618 64e"]),
   (31, Ranges.ofText ["619 64f"]),
   (32, Ranges.ofText ["61a 650"]),
   (33, Ranges.ofText ["651"]),
   (34, Ranges.ofText ["652"]),
   (35, Ranges.ofText ["670"]),
   (36, Ranges.ofText ["711"]),
   (84, Ranges.ofText ["c55"]),
   (91, Ranges.ofText ["c56"]),
   (103, Ranges.ofText ["e38-e39"]),
   (107, Ranges.ofText ["e48-e4b"]),
   (118, Ranges.ofText ["eb8-eb9"]),
   (122, Ranges.ofText ["ec8-ecb"]),
   (129, Ranges.ofText ["f71"]),
   (130, Ranges.ofText ["f72 f7a-f7d f80"]),
   (132, Ranges.ofText ["f74"]),
   (202, Ranges.ofText ["321-322 327-328 1dd0"]),
   (214, Ranges.ofText ["1dce"]),
   (216, Ranges.ofText ["31b f39 1d165-1d166 1d16e-1d172"]),
   (218, Ranges.ofText ["1dfa 302a"]),
   (220, Ranges.ofText ["316-319 31c-320 323-326 329-333 339-33c 347-349 34d-34e 353-356 359-35a 591 596",
     "59b 5a2-5a7 5aa 5c5 655-656 65c 65f 6e3 6ea 6ed 731 734 737-739 73b-73c 73e 742",
     "744 746 748 7f2 7fd 859-85b 899-89b 8cf-8d3 8e3 8e6 8e9 8ed-8ef 8f6 8f9-8fa 952",
     "f18-f19 f35 f37 fc6 108d 193b 1a18 1a7f 1ab5-1aba 1abd 1abf-1ac0 1ac3-1ac4 1aca",
     "1b6c 1cd5-1cd9 1cdc-1cdf 1ced 1dc2 1dca 1dcf 1df9 1dfd 1dff 20e8 20ec-20ef",
     "a92b-a92d aab4 fe27-fe2d 101fd 102e0 10a0d 10a3a 10ae6 10f46-10f47 10f4b",
     "10f4d-10f50 10f83 10f85 1d17b-1d182 1d18a-1d18b 1e8d0-1e8d6"]),
   (222, Ranges.ofText ["59a 5ad 1939 302d"]),
   (224, Ranges.ofText ["302e-302f"]),
   (226, Ranges.ofText ["1d16d"]),
   (228, Ranges.ofText ["5ae 18a9 1df7-1df8 302b"]),
   (230, Ranges.ofText ["300-314 33d-33f 342 346 34a-34c 350-352 357 35b 363-36f 483-487 592-595 597-599",
     "59c-5a1 5a8-5a9 5ab-5ac 5af 5c4 610-617 653-654 657-65b 65d-65e 6d6-6dc 6df-6e2",
     "6e4 6e7-6e8 6eb-6ec 730 732-733 735-736 73a 73d 73f-741 743 745 747 749-74a",
     "7eb-7f1 7f3 816-819 81b-823 825-827 829-82d 898 89c-89f 8ca-8ce 8d4-8e1 8e4-8e5",
     "8e7-8e8 8ea-8ec 8f3-8f5 8f7-8f8 8fb-8ff 951 953-954 9fe f82-f83 f86-f87 135d-135f",
     "17dd 193a 1a17 1a75-1a7c 1ab0-1ab4 1abb-1abc 1ac1-1ac2 1ac5-1ac9 1acb-1ace 1b6b",
     "1b6d-1b73 1cd0-1cd2 1cda-1cdb 1ce0 1cf4 1cf8-1cf9 1dc0-1dc1 1dc3-1dc9 1dcb-1dcc",
     "1dd1-1df5 1dfb 1dfe 20d0-20d1 20d4-20d7 20db-20dc 20e1 20e7 20e9 20f0 2cef-2cf1",
     "2de0-2dff a66f a674-a67d a69e-a69f a6f0-a6f1 a8e0-a8f1 aab0 aab2-aab3 aab7-aab8",
     "aabe-aabf aac1 fe20-fe26 fe2e-fe2f 10376-1037a 10a0f 10a38 10ae5 10d24-10d27",
     "10eab-10eac 10f48-10f4a 10f4c 10f82 10f84 11100-11102 11366-1136c 11370-11374",
     "1145e 16b30-16b36 1d185-1d189 1d1aa-1d1ad 1d242-1d244 1e000-1e006 1e008-1e018",
     "1e01b-1e021 1e023-1e024 1e026-1e02a 1e130-1e136 1e2ae 1e2ec-1e2ef 1e944-1e949"]),
   (232, Ranges.ofText ["315 31a 358 1df6 302c"]),
   (233, Ranges.ofText ["35c 35f 362 1dfc"]),
   (234, Ranges.ofText ["35d-35e 360-361 1dcd"])]

-- Zero for a starter. Closed to unfolding: a class that is asked for is not to be looked up.
@[irreducible] def combiningClass (c : Char) : Nat :=
  if virama.has c then 9 else
    match combiningClasses.find? fun entry => entry.2.has c with
    | some entry => entry.1
    | none => 0

end PairwiseId.Unicode
