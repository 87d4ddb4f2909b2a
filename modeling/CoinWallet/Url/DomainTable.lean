import CoinWallet.Text.Table

set_option autoImplicit false

namespace CoinWallet.Url

inductive Status
  | kept
  | leftOut
  | refused
deriving DecidableEq, Repr

def Status.ofLetter : List Char → Status
  | ['V'] => kept
  | ['I'] => leftOut
  | _ => refused

def statuses : Text.Runs Status := Text.readRuns Status.ofLetter [
  "0:V 80:X a1:V ad:I ae:V 34f:I 350:V 378:X 37b:V 380:X 390:V 3a2:X 3ac:V 530:X 559:V 58b:X",
  "58d:V 590:X 591:V 5c8:X 5d0:V 5eb:X 5ef:V 5f5:X 606:V 61c:X 61d:V 6dd:X 6de:V 70e:X 710:V",
  "74b:X 74d:V 7b2:X 7c0:V 7fb:X 7fd:V 82e:X 830:V 83f:X 840:V 85c:X 85e:V 85f:X 860:V 86b:X",
  "870:V 890:X 897:V 8e2:X 8e3:V 984:X 985:V 98d:X 98f:V 991:X 993:V 9a9:X 9aa:V 9b1:X 9b2:V",
  "9b3:X 9b6:V 9ba:X 9bc:V 9c5:X 9c7:V 9c9:X 9cb:V 9cf:X 9d7:V 9d8:X 9e0:V 9e4:X 9e6:V 9ff:X",
  "a01:V a04:X a05:V a0b:X a0f:V a11:X a13:V a29:X a2a:V a31:X a32:V a34:X a35:V a37:X a38:V",
  "a3a:X a3c:V a3d:X a3e:V a43:X a47:V a49:X a4b:V a4e:X a51:V a52:X a5c:V a5d:X a66:V a77:X",
  "a81:V a84:X a85:V a8e:X a8f:V a92:X a93:V aa9:X aaa:V ab1:X ab2:V ab4:X ab5:V aba:X abc:V",
  "ac6:X ac7:V aca:X acb:V ace:X ad0:V ad1:X ae0:V ae4:X ae6:V af2:X af9:V b00:X b01:V b04:X",
  "b05:V b0d:X b0f:V b11:X b13:V b29:X b2a:V b31:X b32:V b34:X b35:V b3a:X b3c:V b45:X b47:V",
  "b49:X b4b:V b4e:X b55:V b58:X b5f:V b64:X b66:V b78:X b82:V b84:X b85:V b8b:X b8e:V b91:X",
  "b92:V b96:X b99:V b9b:X b9c:V b9d:X b9e:V ba0:X ba3:V ba5:X ba8:V bab:X bae:V bba:X bbe:V",
  "bc3:X bc6:V bc9:X bca:V bce:X bd0:V bd1:X bd7:V bd8:X be6:V bfb:X c00:V c0d:X c0e:V c11:X",
  "c12:V c29:X c2a:V c3a:X c3c:V c45:X c46:V c49:X c4a:V c4e:X c55:V c57:X c58:V c5b:X c5c:V",
  "c5e:X c60:V c64:X c66:V c70:X c77:V c8d:X c8e:V c91:X c92:V ca9:X caa:V cb4:X cb5:V cba:X",
  "cbc:V cc5:X cc6:V cc9:X cca:V cce:X cd5:V cd7:X cdc:V cdf:X ce0:V ce4:X ce6:V cf0:X cf1:V",
  "cf4:X d00:V d0d:X d0e:V d11:X d12:V d45:X d46:V d49:X d4a:V d50:X d54:V d64:X d66:V d80:X",
  "d81:V d84:X d85:V d97:X d9a:V db2:X db3:V dbc:X dbd:V dbe:X dc0:V dc7:X dca:V dcb:X dcf:V",
  "dd5:X dd6:V dd7:X dd8:V de0:X de6:V df0:X df2:V df5:X e01:V e3b:X e3f:V e5c:X e81:V e83:X",
  "e84:V e85:X e86:V e8b:X e8c:V ea4:X ea5:V ea6:X ea7:V ebe:X ec0:V ec5:X ec6:V ec7:X ec8:V",
  "ecf:X ed0:V eda:X ede:V ee0:X f00:V f48:X f49:V f6d:X f71:V f98:X f99:V fbd:X fbe:V fcd:X",
  "fce:V fdb:X 1000:V 10c6:X 10d0:V 115f:I 1161:V 1249:X 124a:V 124e:X 1250:V 1257:X 1258:V",
  "1259:X 125a:V 125e:X 1260:V 1289:X 128a:V 128e:X 1290:V 12b1:X 12b2:V 12b6:X 12b8:V 12bf:X",
  "12c0:V 12c1:X 12c2:V 12c6:X 12c8:V 12d7:X 12d8:V 1311:X 1312:V 1316:X 1318:V 135b:X 135d:V",
  "137d:X 1380:V 139a:X 13a0:V 13f6:X 1400:V 1680:X 1681:V 169d:X 16a0:V 16f9:X 1700:V 1716:X",
  "171f:V 1737:X 1740:V 1754:X 1760:V 176d:X 176e:V 1771:X 1772:V 1774:X 1780:V 17b4:I 17b6:V",
  "17de:X 17e0:V 17ea:X 17f0:V 17fa:X 1800:V 180b:I 1810:V 181a:X 1820:V 1879:X 1880:V 18ab:X",
  "18b0:V 18f6:X 1900:V 191f:X 1920:V 192c:X 1930:V 193c:X 1940:V 1941:X 1944:V 196e:X 1970:V",
  "1975:X 1980:V 19ac:X 19b0:V 19ca:X 19d0:V 19db:X 19de:V 1a1c:X 1a1e:V 1a5f:X 1a60:V 1a7d:X",
  "1a7f:V 1a8a:X 1a90:V 1a9a:X 1aa0:V 1aae:X 1ab0:V 1ade:X 1ae0:V 1aec:X 1b00:V 1b4d:X 1b4e:V",
  "1bf4:X 1bfc:V 1c38:X 1c3b:V 1c4a:X 1c4d:V 1c8b:X 1cc0:V 1cc8:X 1cd0:V 1cfb:X 1d00:V 1f16:X",
  "1f20:V 1f46:X 1f50:V 1f58:X 1f60:V 1f7e:X 1fb0:V 1fb5:X 1fb6:V 1fc5:X 1fc6:V 1fd4:X 1fd6:V",
  "1fdc:X 1fe0:V 1ff0:X 1ff6:V 1fff:X 200b:I 200c:V 200e:X 2010:V 2024:X 2027:V 2028:X 2030:V",
  "2060:I 2065:X 206a:I 2072:X 20a0:V 20c2:X 20d0:V 20f1:X 2104:V 218c:X 2190:V 242a:X 2440:V",
  "244b:X 24eb:V 2b74:X 2b76:V 2cf4:X 2cf9:V 2d26:X 2d27:V 2d28:X 2d2d:V 2d2e:X 2d30:V 2d68:X",
  "2d70:V 2d71:X 2d7f:V 2d97:X 2da0:V 2da7:X 2da8:V 2daf:X 2db0:V 2db7:X 2db8:V 2dbf:X 2dc0:V",
  "2dc7:X 2dc8:V 2dcf:X 2dd0:V 2dd7:X 2dd8:V 2ddf:X 2de0:V 2e5e:X 2e80:V 2e9a:X 2e9b:V 2ef4:X",
  "3001:V 3040:X 3041:V 3097:X 3099:V 3100:X 3105:V 3130:X 3164:I 318f:X 3190:V 31e6:X 31f0:V",
  "321f:X 3248:V 33c2:X 3400:V a48d:X a490:V a4c7:X a4d0:V a62c:X a641:V a6f8:X a700:V a7dd:X",
  "a7f6:V a82d:X a830:V a83a:X a840:V a878:X a880:V a8c6:X a8ce:V a8da:X a8e0:V a954:X a95f:V",
  "a97d:X a980:V a9ce:X a9cf:V a9da:X a9de:V a9ff:X aa00:V aa37:X aa40:V aa4e:X aa50:V aa5a:X",
  "aa5c:V aac3:X aadb:V aaf7:X ab01:V ab07:X ab09:V ab0f:X ab11:V ab17:X ab20:V ab27:X ab28:V",
  "ab2f:X ab30:V ab6c:X abc0:V abee:X abf0:V abfa:X ac00:V d7a4:X d7b0:V d7c7:X d7cb:V d7fc:X",
  "fa0e:V fa6e:X fb1e:V fb37:X fbb2:V fdd0:X fdfd:V fe00:I fe12:X fe20:V fe30:X fe45:V fe52:X",
  "fe73:V fe75:X feff:I ff00:X ffa0:I ffbf:X 10000:V 1000c:X 1000d:V 10027:X 10028:V 1003b:X",
  "1003c:V 1003e:X 1003f:V 1004e:X 10050:V 1005e:X 10080:V 100fb:X 10100:V 10103:X 10107:V",
  "10134:X 10137:V 1018f:X 10190:V 1019d:X 101a0:V 101a1:X 101d0:V 101fe:X 10280:V 1029d:X",
  "102a0:V 102d1:X 102e0:V 102fc:X 10300:V 10324:X 1032d:V 1034b:X 10350:V 1037b:X 10380:V",
  "1039e:X 1039f:V 103c4:X 103c8:V 103d6:X 10428:V 1049e:X 104a0:V 104aa:X 104d8:V 104fc:X",
  "10500:V 10528:X 10530:V 10564:X 1056f:V 1057b:X 10597:V 105a2:X 105a3:V 105b2:X 105b3:V",
  "105ba:X 105bb:V 105bd:X 105c0:V 105f4:X 10600:V 10737:X 10740:V 10756:X 10760:V 10768:X",
  "10780:V 10786:X 10800:V 10806:X 10808:V 10809:X 1080a:V 10836:X 10837:V 10839:X 1083c:V",
  "1083d:X 1083f:V 10856:X 10857:V 1089f:X 108a7:V 108b0:X 108e0:V 108f3:X 108f4:V 108f6:X",
  "108fb:V 1091c:X 1091f:V 1093a:X 1093f:V 1095a:X 10980:V 109b8:X 109bc:V 109d0:X 109d2:V",
  "10a04:X 10a05:V 10a07:X 10a0c:V 10a14:X 10a15:V 10a18:X 10a19:V 10a36:X 10a38:V 10a3b:X",
  "10a3f:V 10a49:X 10a50:V 10a59:X 10a60:V 10aa0:X 10ac0:V 10ae7:X 10aeb:V 10af7:X 10b00:V",
  "10b36:X 10b39:V 10b56:X 10b58:V 10b73:X 10b78:V 10b92:X 10b99:V 10b9d:X 10ba9:V 10bb0:X",
  "10c00:V 10c49:X 10cc0:V 10cf3:X 10cfa:V 10d28:X 10d30:V 10d3a:X 10d40:V 10d66:X 10d69:V",
  "10d86:X 10d8e:V 10d90:X 10e60:V 10e7f:X 10e80:V 10eaa:X 10eab:V 10eae:X 10eb0:V 10eb2:X",
  "10ec2:V 10ec8:X 10ed0:V 10ed9:X 10efa:V 10f28:X 10f30:V 10f5a:X 10f70:V 10f8a:X 10fb0:V",
  "10fcc:X 10fe0:V 10ff7:X 11000:V 1104e:X 11052:V 11076:X 1107f:V 110bd:X 110be:V 110c3:X",
  "110d0:V 110e9:X 110f0:V 110fa:X 11100:V 11135:X 11136:V 11148:X 11150:V 11177:X 11180:V",
  "111e0:X 111e1:V 111f5:X 11200:V 11212:X 11213:V 11242:X 11280:V 11287:X 11288:V 11289:X",
  "1128a:V 1128e:X 1128f:V 1129e:X 1129f:V 112aa:X 112b0:V 112eb:X 112f0:V 112fa:X 11300:V",
  "11304:X 11305:V 1130d:X 1130f:V 11311:X 11313:V 11329:X 1132a:V 11331:X 11332:V 11334:X",
  "11335:V 1133a:X 1133b:V 11345:X 11347:V 11349:X 1134b:V 1134e:X 11350:V 11351:X 11357:V",
  "11358:X 1135d:V 11364:X 11366:V 1136d:X 11370:V 11375:X 11380:V 1138a:X 1138b:V 1138c:X",
  "1138e:V 1138f:X 11390:V 113b6:X 113b7:V 113c1:X 113c2:V 113c3:X 113c5:V 113c6:X 113c7:V",
  "113cb:X 113cc:V 113d6:X 113d7:V 113d9:X 113e1:V 113e3:X 11400:V 1145c:X 1145d:V 11462:X",
  "11480:V 114c8:X 114d0:V 114da:X 11580:V 115b6:X 115b8:V 115de:X 11600:V 11645:X 11650:V",
  "1165a:X 11660:V 1166d:X 11680:V 116ba:X 116c0:V 116ca:X 116d0:V 116e4:X 11700:V 1171b:X",
  "1171d:V 1172c:X 11730:V 11747:X 11800:V 1183c:X 118c0:V 118f3:X 118ff:V 11907:X 11909:V",
  "1190a:X 1190c:V 11914:X 11915:V 11917:X 11918:V 11936:X 11937:V 11939:X 1193b:V 11947:X",
  "11950:V 1195a:X 119a0:V 119a8:X 119aa:V 119d8:X 119da:V 119e5:X 11a00:V 11a48:X 11a50:V",
  "11aa3:X 11ab0:V 11af9:X 11b00:V 11b0a:X 11b60:V 11b68:X 11bc0:V 11be2:X 11bf0:V 11bfa:X",
  "11c00:V 11c09:X 11c0a:V 11c37:X 11c38:V 11c46:X 11c50:V 11c6d:X 11c70:V 11c90:X 11c92:V",
  "11ca8:X 11ca9:V 11cb7:X 11d00:V 11d07:X 11d08:V 11d0a:X 11d0b:V 11d37:X 11d3a:V 11d3b:X",
  "11d3c:V 11d3e:X 11d3f:V 11d48:X 11d50:V 11d5a:X 11d60:V 11d66:X 11d67:V 11d69:X 11d6a:V",
  "11d8f:X 11d90:V 11d92:X 11d93:V 11d99:X 11da0:V 11daa:X 11db0:V 11ddc:X 11de0:V 11dea:X",
  "11ee0:V 11ef9:X 11f00:V 11f11:X 11f12:V 11f3b:X 11f3e:V 11f5b:X 11fb0:V 11fb1:X 11fc0:V",
  "11ff2:X 11fff:V 1239a:X 12400:V 1246f:X 12470:V 12475:X 12480:V 12544:X 12f90:V 12ff3:X",
  "13000:V 13430:X 13440:V 13456:X 13460:V 143fb:X 14400:V 14647:X 16100:V 1613a:X 16800:V",
  "16a39:X 16a40:V 16a5f:X 16a60:V 16a6a:X 16a6e:V 16abf:X 16ac0:V 16aca:X 16ad0:V 16aee:X",
  "16af0:V 16af6:X 16b00:V 16b46:X 16b50:V 16b5a:X 16b5b:V 16b62:X 16b63:V 16b78:X 16b7d:V",
  "16b90:X 16d40:V 16d7a:X 16e60:V 16e9b:X 16ebb:V 16ed4:X 16f00:V 16f4b:X 16f4f:V 16f88:X",
  "16f8f:V 16fa0:X 16fe0:V 16fe5:X 16ff0:V 16ff7:X 17000:V 18cd6:X 18cff:V 18d1f:X 18d80:V",
  "18df3:X 1aff0:V 1aff4:X 1aff5:V 1affc:X 1affd:V 1afff:X 1b000:V 1b123:X 1b132:V 1b133:X",
  "1b150:V 1b153:X 1b155:V 1b156:X 1b164:V 1b168:X 1b170:V 1b2fc:X 1bc00:V 1bc6b:X 1bc70:V",
  "1bc7d:X 1bc80:V 1bc89:X 1bc90:V 1bc9a:X 1bc9c:V 1bca0:I 1bca4:X 1cc00:V 1ccfd:X 1cd00:V",
  "1ceb4:X 1ceba:V 1ced1:X 1cee0:V 1cef1:X 1cf00:V 1cf2e:X 1cf30:V 1cf47:X 1cf50:V 1cfc4:X",
  "1d000:V 1d0f6:X 1d100:V 1d127:X 1d129:V 1d173:I 1d17b:V 1d1eb:X 1d200:V 1d246:X 1d2c0:V",
  "1d2d4:X 1d2e0:V 1d2f4:X 1d300:V 1d357:X 1d360:V 1d379:X 1d800:V 1da8c:X 1da9b:V 1daa0:X",
  "1daa1:V 1dab0:X 1df00:V 1df1f:X 1df25:V 1df2b:X 1e000:V 1e007:X 1e008:V 1e019:X 1e01b:V",
  "1e022:X 1e023:V 1e025:X 1e026:V 1e02b:X 1e08f:V 1e090:X 1e100:V 1e12d:X 1e130:V 1e13e:X",
  "1e140:V 1e14a:X 1e14e:V 1e150:X 1e290:V 1e2af:X 1e2c0:V 1e2fa:X 1e2ff:V 1e300:X 1e4d0:V",
  "1e4fa:X 1e5d0:V 1e5fb:X 1e5ff:V 1e600:X 1e6c0:V 1e6df:X 1e6e0:V 1e6f6:X 1e6fe:V 1e700:X",
  "1e7e0:V 1e7e7:X 1e7e8:V 1e7ec:X 1e7ed:V 1e7ef:X 1e7f0:V 1e7ff:X 1e800:V 1e8c5:X 1e8c7:V",
  "1e8d7:X 1e922:V 1e94c:X 1e950:V 1e95a:X 1e95e:V 1e960:X 1ec71:V 1ecb5:X 1ed01:V 1ed3e:X",
  "1eef0:V 1eef2:X 1f000:V 1f02c:X 1f030:V 1f094:X 1f0a0:V 1f0af:X 1f0b1:V 1f0c0:X 1f0c1:V",
  "1f0d0:X 1f0d1:V 1f0f6:X 1f10b:V 1f1ae:X 1f1e6:V 1f203:X 1f260:V 1f266:X 1f300:V 1f6d9:X",
  "1f6dc:V 1f6ed:X 1f6f0:V 1f6fd:X 1f700:V 1f7da:X 1f7e0:V 1f7ec:X 1f7f0:V 1f7f1:X 1f800:V",
  "1f80c:X 1f810:V 1f848:X 1f850:V 1f85a:X 1f860:V 1f888:X 1f890:V 1f8ae:X 1f8b0:V 1f8bc:X",
  "1f8c0:V 1f8c2:X 1f8d0:V 1f8d9:X 1f900:V 1fa58:X 1fa60:V 1fa6e:X 1fa70:V 1fa7d:X 1fa80:V",
  "1fa8b:X 1fa8e:V 1fac7:X 1fac8:V 1fac9:X 1facd:V 1fadd:X 1fadf:V 1faeb:X 1faef:V 1faf9:X",
  "1fb00:V 1fb93:X 1fb94:V 1fbfb:X 20000:V 2a6e0:X 2a700:V 2b81e:X 2b820:V 2ceae:X 2ceb0:V",
  "2ebe1:X 2ebf0:V 2ee5e:X 30000:V 3134b:X 31350:V 3347a:X e0100:I e01f0:X"]

-- characters that combine with the one before them
def marks : Text.Runs Bool := Text.readRuns (· == ['M']) [
  "0:O 300:M 371:O 483:M 48b:O 591:M 5be:O 5bf:M 5c0:O 5c1:M 5c3:O 5c4:M 5c6:O 5c7:M 5d0:O 610:M",
  "61b:O 64b:M 660:O 670:M 671:O 6d6:M 6de:O 6df:M 6e5:O 6e7:M 6e9:O 6ea:M 6ee:O 711:M 712:O",
  "730:M 74d:O 7a6:M 7b1:O 7eb:M 7f4:O 7fd:M 7fe:O 816:M 81a:O 81b:M 824:O 825:M 828:O 829:M",
  "830:O 859:M 85e:O 897:M 8a0:O 8ca:M 904:O 93a:M 93d:O 93e:M 950:O 951:M 960:O 962:M 964:O",
  "981:M 985:O 9bc:M 9bd:O 9be:M 9ce:O 9d7:M 9e0:O 9e2:M 9e6:O 9fe:M a05:O a3c:M a5c:O a70:M",
  "a72:O a75:M a76:O a81:M a85:O abc:M abd:O abe:M ad0:O ae2:M ae6:O afa:M b05:O b3c:M b3d:O",
  "b3e:M b5f:O b62:M b66:O b82:M b83:O bbe:M bd0:O bd7:M be6:O c00:M c05:O c3c:M c3d:O c3e:M",
  "c58:O c62:M c66:O c81:M c84:O cbc:M cbd:O cbe:M cdc:O ce2:M ce6:O cf3:M d04:O d3b:M d3d:O",
  "d3e:M d4e:O d57:M d58:O d62:M d66:O d81:M d85:O dca:M de6:O df2:M df4:O e31:M e32:O e34:M",
  "e3f:O e47:M e4f:O eb1:M eb2:O eb4:M ebd:O ec8:M ed0:O f18:M f1a:O f35:M f36:O f37:M f38:O",
  "f39:M f3a:O f3e:M f40:O f71:M f85:O f86:M f88:O f8d:M fbe:O fc6:M fc7:O 102b:M 103f:O 1056:M",
  "105a:O 105e:M 1061:O 1062:M 1065:O 1067:M 106e:O 1071:M 1075:O 1082:M 108e:O 108f:M 1090:O",
  "109a:M 109e:O 135d:M 1360:O 1712:M 171f:O 1732:M 1735:O 1752:M 1760:O 1772:M 1780:O 17b6:M",
  "17d4:O 17dd:M 17e0:O 1885:M 1887:O 18a9:M 18aa:O 1920:M 1940:O 1a17:M 1a1e:O 1a55:M 1a80:O",
  "1ab0:M 1b05:O 1b34:M 1b45:O 1b6b:M 1b74:O 1b80:M 1b83:O 1ba1:M 1bae:O 1be6:M 1bfc:O 1c24:M",
  "1c3b:O 1cd0:M 1cd3:O 1cd4:M 1ce9:O 1ced:M 1cee:O 1cf4:M 1cf5:O 1cf7:M 1cfa:O 1dc0:M 1e01:O",
  "20d0:M 2104:O 2cef:M 2cf3:O 2d7f:M 2d80:O 2de0:M 2e00:O 302a:M 3030:O 3099:M 309d:O a66f:M",
  "a673:O a674:M a67e:O a69e:M a6a0:O a6f0:M a6f2:O a802:M a803:O a806:M a807:O a80b:M a80c:O",
  "a823:M a828:O a82c:M a830:O a880:M a882:O a8b4:M a8ce:O a8e0:M a8f2:O a8ff:M a900:O a926:M",
  "a92e:O a947:M a95f:O a980:M a984:O a9b3:M a9c1:O a9e5:M a9e6:O aa29:M aa40:O aa43:M aa44:O",
  "aa4c:M aa50:O aa7b:M aa7e:O aab0:M aab1:O aab2:M aab5:O aab7:M aab9:O aabe:M aac0:O aac1:M",
  "aac2:O aaeb:M aaf0:O aaf5:M ab01:O abe3:M abeb:O abec:M abf0:O fb1e:M fbb2:O fe20:M fe45:O",
  "101fd:M 10280:O 102e0:M 102e1:O 10376:M 10380:O 10a01:M 10a10:O 10a38:M 10a40:O 10ae5:M",
  "10aeb:O 10d24:M 10d30:O 10d69:M 10d6e:O 10eab:M 10ead:O 10efa:M 10f00:O 10f46:M 10f51:O",
  "10f82:M 10f86:O 11000:M 11003:O 11038:M 11047:O 11070:M 11071:O 11073:M 11075:O 1107f:M",
  "11083:O 110b0:M 110bb:O 110c2:M 110d0:O 11100:M 11103:O 11127:M 11136:O 11145:M 11147:O",
  "11173:M 11174:O 11180:M 11183:O 111b3:M 111c1:O 111c9:M 111cd:O 111ce:M 111d0:O 1122c:M",
  "11238:O 1123e:M 1123f:O 11241:M 11280:O 112df:M 112f0:O 11300:M 11305:O 1133b:M 1133d:O",
  "1133e:M 11350:O 11357:M 1135d:O 11362:M 11380:O 113b8:M 113d1:O 113d2:M 113d3:O 113e1:M",
  "11400:O 11435:M 11447:O 1145e:M 1145f:O 114b0:M 114c4:O 115af:M 115c1:O 115dc:M 11600:O",
  "11630:M 11641:O 116ab:M 116b8:O 1171d:M 11730:O 1182c:M 1183b:O 11930:M 1193f:O 11940:M",
  "11941:O 11942:M 11944:O 119d1:M 119e1:O 119e4:M 11a00:O 11a01:M 11a0b:O 11a33:M 11a3a:O",
  "11a3b:M 11a3f:O 11a47:M 11a50:O 11a51:M 11a5c:O 11a8a:M 11a9a:O 11b60:M 11bc0:O 11c2f:M",
  "11c40:O 11c92:M 11d00:O 11d31:M 11d46:O 11d47:M 11d50:O 11d8a:M 11d98:O 11ef3:M 11ef7:O",
  "11f00:M 11f02:O 11f03:M 11f04:O 11f34:M 11f43:O 11f5a:M 11fb0:O 13440:M 13441:O 13447:M",
  "13460:O 1611e:M 16130:O 16af0:M 16af5:O 16b30:M 16b37:O 16f4f:M 16f50:O 16f51:M 16f93:O",
  "16fe4:M 16ff2:O 1bc9d:M 1bc9f:O 1cf00:M 1cf50:O 1d165:M 1d16a:O 1d16d:M 1d183:O 1d185:M",
  "1d18c:O 1d1aa:M 1d1ae:O 1d242:M 1d245:O 1da00:M 1da37:O 1da3b:M 1da6d:O 1da75:M 1da76:O",
  "1da84:M 1da85:O 1da9b:M 1df00:O 1e000:M 1e100:O 1e130:M 1e137:O 1e2ae:M 1e2c0:O 1e2ec:M",
  "1e2f0:O 1e4ec:M 1e4f0:O 1e5ee:M 1e5f0:O 1e6e3:M 1e6e4:O 1e6e6:M 1e6e7:O 1e6ee:M 1e6f0:O",
  "1e6f5:M 1e6fe:O 1e8d0:M 1e922:O 1e944:M 1e94b:O"]

inductive Direction
  | rightward
  | leftward
  | europeanNumber
  | arabicNumber
  | mark
  | neutral
deriving DecidableEq, Repr

def Direction.ofLetter : List Char → Direction
  | ['L'] => rightward
  | ['R'] => leftward
  | ['E'] => europeanNumber
  | ['A'] => arabicNumber
  | ['N'] => mark
  | _ => neutral

def directions : Text.Runs Direction := Text.readRuns Direction.ofLetter [
  "0:O 30:E 3a:O 61:L 7b:O df:L f7:O f8:L 2b9:O 2bb:L 2c2:O 2d0:L 2d2:O 2ee:L 2ef:O 300:N 371:L",
  "375:O 377:L 3f6:O 3f8:L 483:N 48b:L 58a:O 591:N 5be:R 5bf:N 5c0:R 5c1:N 5c3:R 5c4:N 5c6:R",
  "5c7:N 5d0:R 606:O 608:R 609:O 60b:R 60c:O 60d:R 60e:O 610:N 61b:R 64b:N 660:A 66a:O 66b:A",
  "66d:R 670:N 671:R 6d6:N 6de:O 6df:N 6e5:R 6e7:N 6e9:O 6ea:N 6ee:R 6f0:E 6fa:R 711:N 712:R",
  "730:N 74d:R 7a6:N 7b1:R 7eb:N 7f4:R 7f6:O 7fa:R 7fd:N 7fe:R 816:N 81a:R 81b:N 824:R 825:N",
  "828:R 829:N 830:R 859:N 85e:R 897:N 8a0:R 8ca:N 903:L 93a:N 93b:L 93c:N 93d:L 941:N 949:L",
  "94d:N 94e:L 951:N 960:L 962:N 964:L 981:N 982:L 9bc:N 9bd:L 9c1:N 9c7:L 9cd:N 9ce:L 9e2:N",
  "9e6:L 9f2:O 9f4:L 9fb:O 9fc:L 9fe:N a03:L a3c:N a3e:L a41:N a5c:L a70:N a72:L a75:N a76:L",
  "a81:N a83:L abc:N abd:L ac1:N ac9:L acd:N ad0:L ae2:N ae6:L af1:O af9:L afa:N b02:L b3c:N",
  "b3d:L b3f:N b40:L b41:N b47:L b4d:N b57:L b62:N b66:L b82:N b83:L bc0:N bc1:L bcd:N bd0:L",
  "bf3:O c00:N c01:L c04:N c05:L c3c:N c3d:L c3e:N c41:L c46:N c58:L c62:N c66:L c78:O c7f:L",
  "c81:N c82:L cbc:N cbd:L ccc:N cd5:L ce2:N ce6:L d00:N d02:L d3b:N d3d:L d41:N d46:L d4d:N",
  "d4e:L d62:N d66:L d81:N d82:L dca:N dcf:L dd2:N dd8:L e31:N e32:L e34:N e3f:O e40:L e47:N",
  "e4f:L eb1:N eb2:L eb4:N ebd:L ec8:N ed0:L f18:N f1a:L f35:N f36:L f37:N f38:L f39:N f3a:O",
  "f3e:L f71:N f7f:L f80:N f85:L f86:N f88:L f8d:N fbe:L fc6:N fc7:L 102d:N 1031:L 1032:N 1038:L",
  "1039:N 103b:L 103d:N 103f:L 1058:N 105a:L 105e:N 1061:L 1071:N 1075:L 1082:N 1083:L 1085:N",
  "1087:L 108d:N 108e:L 109d:N 109e:L 135d:N 1360:L 1390:O 13a0:L 1400:O 1401:L 169b:O 16a0:L",
  "1712:N 1715:L 1732:N 1734:L 1752:N 1760:L 1772:N 1780:L 17b7:N 17be:L 17c6:N 17c7:L 17c9:N",
  "17d4:L 17db:O 17dc:L 17dd:N 17e0:L 17f0:O 1810:L 1885:N 1887:L 18a9:N 18aa:L 1920:N 1923:L",
  "1927:N 1929:L 1932:N 1933:L 1939:N 1940:O 1946:L 19de:O 1a00:L 1a17:N 1a19:L 1a1b:N 1a1e:L",
  "1a56:N 1a57:L 1a58:N 1a61:L 1a62:N 1a63:L 1a65:N 1a6d:L 1a73:N 1a80:L 1ab0:N 1b04:L 1b34:N",
  "1b35:L 1b36:N 1b3b:L 1b3c:N 1b3d:L 1b42:N 1b43:L 1b6b:N 1b74:L 1b80:N 1b82:L 1ba2:N 1ba6:L",
  "1ba8:N 1baa:L 1bab:N 1bae:L 1be6:N 1be7:L 1be8:N 1bea:L 1bed:N 1bee:L 1bef:N 1bf2:L 1c2c:N",
  "1c34:L 1c36:N 1c3b:L 1cd0:N 1cd3:L 1cd4:N 1ce1:L 1ce2:N 1ce9:L 1ced:N 1cee:L 1cf4:N 1cf5:L",
  "1cf8:N 1cfa:L 1dc0:N 1e01:L 200c:O 20d0:N 2104:O 214e:L 218a:O 2336:L 237b:O 2395:L 2396:O",
  "26ac:L 26ad:O 2800:L 2900:O 2c30:L 2ce5:O 2cec:L 2cef:N 2cf3:L 2cf9:O 2d00:L 2d7f:N 2d80:L",
  "2de0:N 2e00:O 3005:L 3008:O 3021:L 302a:N 302e:L 3030:O 3031:L 3037:O 303b:L 303d:O 3041:L",
  "3099:N 309d:L 30a0:O 30a1:L 30fb:O 30fc:L 31c0:O 31f0:L 4dc0:O 4e00:L a490:O a4d0:L a60d:O",
  "a610:L a66f:N a673:O a674:N a67e:O a681:L a69e:N a6a0:L a6f0:N a6f2:L a700:O a723:L a788:O",
  "a789:L a802:N a803:L a806:N a807:L a80b:N a80c:L a825:N a827:L a828:O a82c:N a830:L a838:O",
  "a840:L a874:O a880:L a8c4:N a8ce:L a8e0:N a8f2:L a8ff:N a900:L a926:N a92e:L a947:N a952:L",
  "a980:N a983:L a9b3:N a9b4:L a9b6:N a9ba:L a9bc:N a9be:L a9e5:N a9e6:L aa29:N aa2f:L aa31:N",
  "aa33:L aa35:N aa40:L aa43:N aa44:L aa4c:N aa4d:L aa7c:N aa7d:L aab0:N aab1:L aab2:N aab5:L",
  "aab7:N aab9:L aabe:N aac0:L aac1:N aac2:L aaec:N aaee:L aaf6:N ab01:L ab6a:O abc0:L abe5:N",
  "abe6:L abe8:N abe9:L abed:N abf0:L fb1e:N fbb2:R fbc3:O fe20:N fe45:O fe73:R 10000:L 10101:O",
  "10102:L 10140:O 1018d:L 10190:O 101d0:L 101fd:N 10280:L 102e0:N 102e1:E 10300:L 10376:N",
  "10380:L 10800:R 1091f:O 10920:R 10a01:N 10a10:R 10a38:N 10a40:R 10ae5:N 10aeb:R 10b39:O",
  "10b40:R 10d24:N 10d30:A 10d40:R 10d69:N 10d6e:O 10d6f:R 10e60:A 10e80:R 10eab:N 10ead:R",
  "10ed0:O 10efa:N 10f00:R 10f46:N 10f51:R 10f82:N 10f86:R 11000:L 11001:N 11002:L 11038:N",
  "11047:L 11052:O 11066:L 11070:N 11071:L 11073:N 11075:L 1107f:N 11082:L 110b3:N 110b7:L",
  "110b9:N 110bb:L 110c2:N 110d0:L 11100:N 11103:L 11127:N 1112c:L 1112d:N 11136:L 11173:N",
  "11174:L 11180:N 11182:L 111b6:N 111bf:L 111c9:N 111cd:L 111cf:N 111d0:L 1122f:N 11232:L",
  "11234:N 11235:L 11236:N 11238:L 1123e:N 1123f:L 11241:N 11280:L 112df:N 112e0:L 112e3:N",
  "112f0:L 11300:N 11302:L 1133b:N 1133d:L 11340:N 11341:L 11366:N 11380:L 113bb:N 113c2:L",
  "113ce:N 113cf:L 113d0:N 113d1:L 113d2:N 113d3:L 113e1:N 11400:L 11438:N 11440:L 11442:N",
  "11445:L 11446:N 11447:L 1145e:N 1145f:L 114b3:N 114b9:L 114ba:N 114bb:L 114bf:N 114c1:L",
  "114c2:N 114c4:L 115b2:N 115b8:L 115bc:N 115be:L 115bf:N 115c1:L 115dc:N 11600:L 11633:N",
  "1163b:L 1163d:N 1163e:L 1163f:N 11641:L 11660:O 11680:L 116ab:N 116ac:L 116ad:N 116ae:L",
  "116b0:N 116b6:L 116b7:N 116b8:L 1171d:N 11720:L 11722:N 11726:L 11727:N 11730:L 1182f:N",
  "11838:L 11839:N 1183b:L 1193b:N 1193d:L 1193e:N 1193f:L 11943:N 11944:L 119d4:N 119dc:L",
  "119e0:N 119e1:L 11a01:N 11a07:L 11a09:N 11a0b:L 11a33:N 11a39:L 11a3b:N 11a3f:L 11a47:N",
  "11a50:L 11a51:N 11a57:L 11a59:N 11a5c:L 11a8a:N 11a97:L 11a98:N 11a9a:L 11b60:N 11b61:L",
  "11b62:N 11b65:L 11b66:N 11b67:L 11c30:N 11c3e:L 11c92:N 11ca9:L 11caa:N 11cb1:L 11cb2:N",
  "11cb4:L 11cb5:N 11d00:L 11d31:N 11d46:L 11d47:N 11d50:L 11d90:N 11d93:L 11d95:N 11d96:L",
  "11d97:N 11d98:L 11ef3:N 11ef5:L 11f00:N 11f02:L 11f36:N 11f3e:L 11f40:N 11f41:L 11f42:N",
  "11f43:L 11f5a:N 11fb0:L 11fd5:O 11fff:L 13440:N 13441:L 13447:N 13460:L 1611e:N 1612a:L",
  "1612d:N 16130:L 16af0:N 16af5:L 16b30:N 16b37:L 16f4f:N 16f50:L 16f8f:N 16f93:L 16fe2:O",
  "16fe3:L 16fe4:N 16ff0:L 1bc9d:N 1bc9f:L 1cc00:O 1cf00:N 1cf50:L 1d167:N 1d16a:L 1d17b:N",
  "1d183:L 1d185:N 1d18c:L 1d1aa:N 1d1ae:L 1d1e9:O 1d242:N 1d245:O 1d2c0:L 1d300:O 1d360:L",
  "1da00:N 1da37:L 1da3b:N 1da6d:L 1da75:N 1da76:L 1da84:N 1da85:L 1da9b:N 1df00:L 1e000:N",
  "1e100:L 1e130:N 1e137:L 1e2ae:N 1e2c0:L 1e2ec:N 1e2f0:L 1e2ff:O 1e4d0:L 1e4ec:N 1e4f0:L",
  "1e5ee:N 1e5f0:L 1e6e3:N 1e6e4:L 1e6e6:N 1e6e7:L 1e6ee:N 1e6f0:L 1e6f5:N 1e6fe:L 1e800:R",
  "1e8d0:N 1e922:R 1e944:N 1e94b:R 1eef0:O 1f150:L 1f16d:O 1f170:L 1f1ad:O 1f1e6:L 1f260:O",
  "20000:L"]

inductive Joining
  | left
  | right
  | both
  | transparent
  | alone
deriving DecidableEq, Repr

def Joining.ofLetter : List Char → Joining
  | ['L'] => left
  | ['R'] => right
  | ['D'] => both
  | ['T'] => transparent
  | _ => alone

def joinings : Text.Runs Joining := Text.readRuns Joining.ofLetter [
  "0:U 300:T 371:U 483:T 48b:U 591:T 5be:U 5bf:T 5c0:U 5c1:T 5c3:U 5c4:T 5c6:U 5c7:T 5d0:U 610:T",
  "61b:U 620:D 621:U 622:R 626:D 627:R 628:D 629:R 62a:D 62f:R 633:D 640:U 641:D 648:R 649:D",
  "64b:T 660:U 66e:D 670:T 671:R 674:U 679:D 688:R 69a:D 6c0:R 6c1:D 6c3:R 6cc:D 6cd:R 6ce:D",
  "6cf:R 6d0:D 6d2:R 6d4:U 6d5:R 6d6:T 6de:U 6df:T 6e5:U 6e7:T 6e9:U 6ea:T 6ee:R 6f0:U 6fa:D",
  "6fd:U 6ff:D 700:U 710:R 711:T 712:D 715:R 71a:D 71e:R 71f:D 728:R 729:D 72a:R 72b:D 72c:R",
  "72d:D 72f:R 730:T 74d:R 74e:D 759:R 75c:D 76b:R 76d:D 771:R 772:D 773:R 775:D 778:R 77a:D",
  "780:U 7a6:T 7b1:U 7ca:D 7eb:T 7f4:U 7fd:T 7fe:U 816:T 81a:U 81b:T 824:U 825:T 828:U 829:T",
  "830:U 840:R 841:D 846:R 848:D 849:R 84a:D 854:R 855:D 856:R 859:T 85e:U 860:D 861:U 862:D",
  "866:U 867:R 868:D 869:R 883:U 886:D 887:U 889:D 88e:R 88f:D 897:T 8a0:D 8aa:R 8ad:U 8ae:R",
  "8af:D 8b1:R 8b3:D 8b9:R 8ba:D 8c9:U 8ca:T 903:U 93a:T 93b:U 93c:T 93d:U 941:T 949:U 94d:T",
  "94e:U 951:T 960:U 962:T 964:U 981:T 982:U 9bc:T 9bd:U 9c1:T 9c7:U 9cd:T 9ce:U 9e2:T 9e6:U",
  "9fe:T a03:U a3c:T a3e:U a41:T a5c:U a70:T a72:U a75:T a76:U a81:T a83:U abc:T abd:U ac1:T",
  "ac9:U acd:T ad0:U ae2:T ae6:U afa:T b02:U b3c:T b3d:U b3f:T b40:U b41:T b47:U b4d:T b57:U",
  "b62:T b66:U b82:T b83:U bc0:T bc1:U bcd:T bd0:U c00:T c01:U c04:T c05:U c3c:T c3d:U c3e:T",
  "c41:U c46:T c58:U c62:T c66:U c81:T c82:U cbc:T cbd:U cbf:T cc0:U cc6:T cc7:U ccc:T cd5:U",
  "ce2:T ce6:U d00:T d02:U d3b:T d3d:U d41:T d46:U d4d:T d4e:U d62:T d66:U d81:T d82:U dca:T",
  "dcf:U dd2:T dd8:U e31:T e32:U e34:T e3f:U e47:T e4f:U eb1:T eb2:U eb4:T ebd:U ec8:T ed0:U",
  "f18:T f1a:U f35:T f36:U f37:T f38:U f39:T f3a:U f71:T f7f:U f80:T f85:U f86:T f88:U f8d:T",
  "fbe:U fc6:T fc7:U 102d:T 1031:U 1032:T 1038:U 1039:T 103b:U 103d:T 103f:U 1058:T 105a:U 105e:T",
  "1061:U 1071:T 1075:U 1082:T 1083:U 1085:T 1087:U 108d:T 108e:U 109d:T 109e:U 135d:T 1360:U",
  "1712:T 1715:U 1732:T 1734:U 1752:T 1760:U 1772:T 1780:U 17b7:T 17be:U 17c6:T 17c7:U 17c9:T",
  "17d4:U 17dd:T 17e0:U 1807:D 1808:U 1820:D 1880:U 1885:T 1887:D 18a9:T 18aa:D 18b0:U 1920:T",
  "1923:U 1927:T 1929:U 1932:T 1933:U 1939:T 1940:U 1a17:T 1a19:U 1a1b:T 1a1e:U 1a56:T 1a57:U",
  "1a58:T 1a61:U 1a62:T 1a63:U 1a65:T 1a6d:U 1a73:T 1a80:U 1ab0:T 1b04:U 1b34:T 1b35:U 1b36:T",
  "1b3b:U 1b3c:T 1b3d:U 1b42:T 1b43:U 1b6b:T 1b74:U 1b80:T 1b82:U 1ba2:T 1ba6:U 1ba8:T 1baa:U",
  "1bab:T 1bae:U 1be6:T 1be7:U 1be8:T 1bea:U 1bed:T 1bee:U 1bef:T 1bf2:U 1c2c:T 1c34:U 1c36:T",
  "1c3b:U 1cd0:T 1cd3:U 1cd4:T 1ce1:U 1ce2:T 1ce9:U 1ced:T 1cee:U 1cf4:T 1cf5:U 1cf8:T 1cfa:U",
  "1dc0:T 1e01:U 20d0:T 2104:U 2cef:T 2cf3:U 2d7f:T 2d80:U 2de0:T 2e00:U 302a:T 302e:U 3099:T",
  "309d:U a66f:T a673:U a674:T a67e:U a69e:T a6a0:U a6f0:T a6f2:U a802:T a803:U a806:T a807:U",
  "a80b:T a80c:U a825:T a827:U a82c:T a830:U a840:D a872:L a873:U a8c4:T a8ce:U a8e0:T a8f2:U",
  "a8ff:T a900:U a926:T a92e:U a947:T a952:U a980:T a983:U a9b3:T a9b4:U a9b6:T a9ba:U a9bc:T",
  "a9be:U a9e5:T a9e6:U aa29:T aa2f:U aa31:T aa33:U aa35:T aa40:U aa43:T aa44:U aa4c:T aa4d:U",
  "aa7c:T aa7d:U aab0:T aab1:U aab2:T aab5:U aab7:T aab9:U aabe:T aac0:U aac1:T aac2:U aaec:T",
  "aaee:U aaf6:T ab01:U abe5:T abe6:U abe8:T abe9:U abed:T abf0:U fb1e:T fbb2:U fe20:T fe45:U",
  "101fd:T 10280:U 102e0:T 102e1:U 10376:T 10380:U 10a01:T 10a10:U 10a38:T 10a40:U 10ac0:D",
  "10ac5:R 10ac6:U 10ac7:R 10ac8:U 10ac9:R 10acb:U 10acd:L 10ace:R 10ad3:D 10ad7:L 10ad8:D",
  "10add:R 10ade:D 10ae1:R 10ae2:U 10ae4:R 10ae5:T 10aeb:D 10aef:R 10af0:U 10b80:D 10b81:R",
  "10b82:D 10b83:R 10b86:D 10b89:R 10b8a:D 10b8c:R 10b8d:D 10b8e:R 10b90:D 10b91:R 10b99:U",
  "10ba9:R 10bad:D 10baf:U 10d00:L 10d01:D 10d22:R 10d23:D 10d24:T 10d30:U 10d69:T 10d6e:U",
  "10eab:T 10ead:U 10ec2:R 10ec3:D 10ec5:U 10ec6:D 10ed0:U 10efa:T 10f00:U 10f30:D 10f33:R",
  "10f34:D 10f45:U 10f46:T 10f51:D 10f54:R 10f55:U 10f70:D 10f74:R 10f76:D 10f82:T 10f86:U",
  "10fb0:D 10fb1:U 10fb2:D 10fb4:R 10fb7:U 10fb8:D 10fb9:R 10fbb:D 10fbd:R 10fbe:D 10fc0:U",
  "10fc1:D 10fc2:R 10fc4:D 10fc5:U 10fc9:R 10fca:D 10fcb:L 10fe0:U 11001:T 11002:U 11038:T",
  "11047:U 11070:T 11071:U 11073:T 11075:U 1107f:T 11082:U 110b3:T 110b7:U 110b9:T 110bb:U",
  "110c2:T 110d0:U 11100:T 11103:U 11127:T 1112c:U 1112d:T 11136:U 11173:T 11174:U 11180:T",
  "11182:U 111b6:T 111bf:U 111c9:T 111cd:U 111cf:T 111d0:U 1122f:T 11232:U 11234:T 11235:U",
  "11236:T 11238:U 1123e:T 1123f:U 11241:T 11280:U 112df:T 112e0:U 112e3:T 112f0:U 11300:T",
  "11302:U 1133b:T 1133d:U 11340:T 11341:U 11366:T 11380:U 113bb:T 113c2:U 113ce:T 113cf:U",
  "113d0:T 113d1:U 113d2:T 113d3:U 113e1:T 11400:U 11438:T 11440:U 11442:T 11445:U 11446:T",
  "11447:U 1145e:T 1145f:U 114b3:T 114b9:U 114ba:T 114bb:U 114bf:T 114c1:U 114c2:T 114c4:U",
  "115b2:T 115b8:U 115bc:T 115be:U 115bf:T 115c1:U 115dc:T 11600:U 11633:T 1163b:U 1163d:T",
  "1163e:U 1163f:T 11641:U 116ab:T 116ac:U 116ad:T 116ae:U 116b0:T 116b6:U 116b7:T 116b8:U",
  "1171d:T 1171e:U 1171f:T 11720:U 11722:T 11726:U 11727:T 11730:U 1182f:T 11838:U 11839:T",
  "1183b:U 1193b:T 1193d:U 1193e:T 1193f:U 11943:T 11944:U 119d4:T 119dc:U 119e0:T 119e1:U",
  "11a01:T 11a0b:U 11a33:T 11a39:U 11a3b:T 11a3f:U 11a47:T 11a50:U 11a51:T 11a57:U 11a59:T",
  "11a5c:U 11a8a:T 11a97:U 11a98:T 11a9a:U 11b60:T 11b61:U 11b62:T 11b65:U 11b66:T 11b67:U",
  "11c30:T 11c3e:U 11c3f:T 11c40:U 11c92:T 11ca9:U 11caa:T 11cb1:U 11cb2:T 11cb4:U 11cb5:T",
  "11d00:U 11d31:T 11d46:U 11d47:T 11d50:U 11d90:T 11d93:U 11d95:T 11d96:U 11d97:T 11d98:U",
  "11ef3:T 11ef5:U 11f00:T 11f02:U 11f36:T 11f3e:U 11f40:T 11f41:U 11f42:T 11f43:U 11f5a:T",
  "11fb0:U 13440:T 13441:U 13447:T 13460:U 1611e:T 1612a:U 1612d:T 16130:U 16af0:T 16af5:U",
  "16b30:T 16b37:U 16f4f:T 16f50:U 16f8f:T 16f93:U 16fe4:T 16ff0:U 1bc9d:T 1bc9f:U 1cf00:T",
  "1cf50:U 1d167:T 1d16a:U 1d17b:T 1d183:U 1d185:T 1d18c:U 1d1aa:T 1d1ae:U 1d242:T 1d245:U",
  "1da00:T 1da37:U 1da3b:T 1da6d:U 1da75:T 1da76:U 1da84:T 1da85:U 1da9b:T 1df00:U 1e000:T",
  "1e100:U 1e130:T 1e137:U 1e2ae:T 1e2c0:U 1e2ec:T 1e2f0:U 1e4ec:T 1e4f0:U 1e5ee:T 1e5f0:U",
  "1e6e3:T 1e6e4:U 1e6e6:T 1e6e7:U 1e6ee:T 1e6f0:U 1e6f5:T 1e6fe:U 1e8d0:T 1e922:D 1e944:T",
  "1e950:U"]

end CoinWallet.Url
