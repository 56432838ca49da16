/-!
# The sample dump

A dump to try the program on: eight statements of a customer information schema, of which one
is cut off in the midst of its column list.
-/

namespace TableAtlas.Dump

def sampleLines : List String := [
  "/*",
  " Navicat Premium Data Transfer",
  "",
  " Source Server         : onebox-17",
  " Source Server Type    : MySQL",
  " Source Server Version : 80033",
  " Source Host           : 10.0.24.166:3306",
  " Source Schema         : ens_cif001",
  "",
  " Target Server Type    : MySQL",
  " Target Server Version : 80033",
  " File Encoding         : 65001",
  "",
  " Date: 24/11/2025 13:47:24",
  "*/",
  "",
  "SET NAMES utf8mb4;",
  "SET FOREIGN_KEY_CHECKS = 0;",
  "",
  "-- ----------------------------",
  "-- Table structure for cif_amend",
  "-- ----------------------------",
  "DROP TABLE IF EXISTS `cif_amend`;",
  "CREATE TABLE `cif_amend`  (",
  "  `AMEND_BATCH_NO` varchar(50) CHARACTER SET utf8mb3 COLLATE utf8mb3_general_ci NULL DEFAULT NULL COMMENT '变更批次号|变更批次号',",
  "  `AMEND_SEQ_NO` varchar(50) CHARACTER SET utf8mb3 COLLATE utf8mb3_general_ci NOT NULL COMMENT '变更序号|变更序号',",
  "  `CLIENT_NO` varchar(20) CHARACTER SET utf8mb3 COLLATE utf8mb3_general_ci NOT NULL COMMENT '客户号|客户号',",
  "  `REFERENCE` varchar(50) CHARACTER SET utf8mb3 COLLATE utf8mb3_general_ci NULL DEFAULT NULL COMMENT '交易参考号|交易参考号',",
  "  `AMEND_DATE` datetime(0) NULL DEFAULT NULL COMMENT '变更日期|变更日期',",
  "  `SOURCE_TYPE` varchar(10) CHARACTER SET utf8mb3 COLLATE utf8mb3_general_ci NULL DEFAULT NULL COMMENT '渠道类型|渠道类型',",
  "  `TRAN_BRANCH` varchar(50) CHARACTER SET utf8mb3 COLLATE utf8mb3_general_ci NULL DEFAULT NULL COMMENT '交易机构|交易机构',",
  "  `AMEND_TYPE` varchar(10) CHARACTER SET utf8mb3 COLLATE utf8mb3_general_ci NULL DEFAULT NULL COMMENT '账户变更类型|账户变更类型|BASE-基本信息变更,CLIT-客户变更,INDV-对私客户附属信息变更,CORP-对公客户附属信息变更,DOCU-客户证件信息变更,CONT-客户联系信息变更,VERI-对私客户身份核实信息变更,NRA-非居民涉税信息变更,PRA-额度变更,PROD-产品变更,BRAH-机构变更,MAT-期限变更,PINT-停息复息,ADJ-计提调整,RATE-利率变更,SETT-结算账户变更,ATAS-贷款状态变更,REATIVE-贷款关闭后激活',",
  "  `AMEND_BUSI_SORT` char(1) CHARACTER SET utf8mb3 COLLATE utf8mb3_general_ci NULL DEFAULT NULL COMMENT '变更业务分类|变更业务分类|1-账户 ,2-客户',",
  "  `BASE_ACCT_NO` varchar(50) CHARACTER SET utf8mb3 COLLATE utf8mb3_general_ci NULL DEFAULT NULL COMMENT '账号/卡号|用于描述不同账户结构下的账号，如果是卡的话代表卡号，否则代表账号',",
  "  `PROD_TYPE` varchar(20) CHARACTER SET utf8mb3 COLLATE utf8mb3_general_ci NULL DEFAULT NULL COMMENT '产品类型|产品类型',",
  "  `ACCT_CCY` varchar(3) CHARACTER SET utf8mb3 COLLATE utf8mb3_general_ci NULL DEFAULT NULL COMMENT '账户币种|账户币种 对于AIO账户和一本通账户',",
  "  `ACCT_SEQ_NO` varchar(5) CHARACTER SET utf8mb3 COLLATE utf8mb3_general_ci NULL DEFAULT NULL COMMENT '账户序号|账户序列号，采用顺序数字，表示在同一账号、账户类型、币种下的不同子账户，比如定期存款序列号，卡下选择账户',",
  "  `AMEND_ITEM` varchar(30) CHARACTER SET utf8mb3 COLLATE utf8mb3_general_ci NULL DEFAULT NULL COMMENT '修改项|修改项，修改的字段名称，比如账户属性，客户中文名称等的字段名称',",
  "  `AMEND_KEY` varchar(30) CHARACTER SET utf8mb3 COLLATE utf8mb3_general_ci NULL DEFAULT NULL COMMENT '变更内容的关键值|变更内容的关键值，比如账户的内部键internal_key,客户的client_key等',",
  "  `AFTER_VAL` varchar(2000) CHARACTER SET utf8mb3 COLLATE utf8mb3_general_ci NULL DEFAULT NULL COMMENT '变更后值|变更后值',",
  "  `AFTER_VAL1` varchar(2000) CHARACTER SET utf8mb3 COLLATE utf8mb3_general_ci NULL DEFAULT NULL COMMENT '变更后值1|变更后值1',",
  "  `BEFORE_VAL` varchar(2000) CHARACTER SET utf8mb3 COLLATE utf8mb3_general_ci NULL DEFAULT NULL COMMENT '变更前值|变更前值',",
  "  `BEFORE_VAL1` varchar(2000) CHARACTER SET utf8mb3 COLLATE utf8mb3_general_ci NULL DEFAULT NULL COMMENT '变更前值1|变更前值1',",
  "  `NARRATIVE` varchar(500) CHARACTER SET utf8mb3 COLLATE utf8mb3_general_ci NULL DEFAULT NULL COMMENT '摘要|开户时的账号用途，销户时的销户原因',",
  "  `APPR_FLAG` char(1) CHARACTER SET utf8mb3 COLLATE utf8mb3_general_ci NULL DEFAULT NULL COMMENT '复核标志|复核标志|Y-已复核,N-未复核',",
  "  `APPROVAL_DATE` datetime(0) NULL DEFAULT NULL COMMENT '复核日期|复核日期',",
  "  `APPR_USER_ID` varchar(30) CHARACTER SET utf8mb3 COLLATE utf8mb3_general_ci NULL DEFAULT NULL COMMENT '复核柜员|复核柜员',",
  "  `TRAN_TIMESTAMP` varchar(26) CHARACTER SET utf8mb3 COLLATE utf8mb3_general_ci NOT NULL COMMENT '交易时间戳|交易时间戳',",
  "  `USER_ID` varchar(30) CHARACTER SET utf8mb3 COLLATE utf8mb3_general_ci NULL DEFAULT NULL COMMENT '交易柜员|交易柜员',",
  "  `COMPANY` varchar(20) CHARACTER SET utf8mb3 COLLATE utf8mb3_general_ci NULL DEFAULT NULL COMMENT '法人|法人',",
  "  PRIMARY KEY (`AMEND_SEQ_NO`) USING BTREE,",
  "  INDEX `IDX_CIF_AMEND_1`(`CLIENT_NO`) USING BTREE",
  ") ENGINE = InnoDB CHARACTER SET = utf8mb3 COLLATE = utf8mb3_general_ci COMMENT = '业务信息变更操作记录|业务信息变更操作记录' ROW_FORMAT = Dynamic;",
  "",
  "-- ----------------------------",
  "-- Table structure for cif_benefit_owner_info",
  "-- ----------------------------",
  "DROP TABLE IF EXISTS `cif_benefit_owner_info`;",
  "CREATE TABLE `cif_benefit_owner_info`  (",
  "  `CLIENT_NO` varchar(20) CHARACTER SET utf8mb3 COLLATE utf8mb3_general_ci NOT NULL COMMENT '客户号|客户号',",
  "  `OWNER_NAME` varchar(200) CHARACTER SET utf8mb3 COLLATE utf8mb3_general_ci NULL DEFAULT NULL COMMENT '所有人姓名|所有人姓名',",
  "  `DOCUMENT_TYPE` varchar(3) CHARACTER SET utf8mb3 COLLATE utf8mb3_general_ci NOT NULL COMMENT '证件类型|证件类型',",
  "  `DOCUMENT_ID` varchar(50) CHARACTER SET utf8mb3 COLLATE utf8mb3_general_ci NOT NULL COMMENT '证件号码|证件号码',",
  "  `MATURITY_DATE` datetime(0) NULL DEFAULT NULL COMMENT '到期日期|证件的到期日期',",
  "  `ADDRESS` varchar(500) CHARACTER SET utf8mb3 COLLATE utf8mb3_general_ci NULL DEFAULT NULL COMMENT '地址|地址',",
  "  `IS_SPECIAL_PEOPLE` char(1) CHARACTER SET utf8mb3 COLLATE utf8mb3_general_ci NULL DEFAULT NULL COMMENT '是否特定自然人|是否特定自然人|Y-是,N-否',",
  "  `TRAN_TIMESTAMP` varchar(26) CHARACTER SET utf8mb3 COLLATE utf8mb3_general_ci NOT NULL COMMENT '交易时间戳|交易时间戳',",
  "  `COMPANY` varchar(20) CHARACTER SET utf8mb3 COLLATE utf8mb3_general_ci NULL DEFAULT NULL COMMENT '法人|法人',",
  "  PRIMARY KEY (`CLIENT_NO`, `DOCUMENT_TYPE`, `DOCUMENT_ID`) USING BTREE",
  ") ENGINE = InnoDB CHARACTER SET = utf8mb3 COLLATE = utf8mb3_general_ci COMMENT = '（对公）受益所有人信息表|（对公）受益所有人信息表' ROW_FORMAT = Dynamic;",
  "",
  "-- ----------------------------",
  "-- Table structure for cif_business",
  "-- ----------------------------",
  "DROP TABLE IF EXISTS `cif_business`;",
  "CREATE TABLE `cif_business`  (",
  "  `BUSINESS` varchar(10) CHARACTER SET utf8mb3 COLLATE utf8mb3_general_ci NOT NULL COMMENT '行业代码|行业代码',",
  "  `BUSINESS_DESC` varchar(50) CHARACTER SET utf8mb3 COLLATE utf8mb3_general_ci NOT NULL COMMENT '行业代码说明|行业代码说明',",
  "  `TRAN_TIMESTAMP` varchar(26) CHARACTER SET utf8mb3 COLLATE utf8mb3_general_ci NOT NULL COMMENT '交易时间戳|交易时间戳',",
  "  `COMPANY` varchar(20) CHARACTER SET utf8mb3 COLLATE utf8mb3_general_ci NULL DEFAULT NULL COMMENT '法人|法人',",
  "  PRIMARY KEY (`BUSINESS`) USING BTREE",
  ") ENGINE = InnoDB CHARACTER SET = utf8mb3 COLLATE = utf8mb3_general_ci COMMENT = '行业代码表|行业代码表' ROW_FORMAT = Dynamic;",
  "",
  "-- ----------------------------",
  "-- Table structure for cif_client",
  "-- ----------------------------",
  "DROP TABLE IF EXISTS `cif_client`;",
  "CREATE TABLE `cif_client`  (",
  "  `CLIENT_NO` varchar(20) CHARACTER SET utf8mb3 COLLATE utf8mb3_general_ci NOT NULL COMMENT '客户号|客户号',",
  "  `CLIENT_SHORT` varchar(200) CHARACTER SET utf8mb3 COLLATE utf8mb3_general_ci NULL DEFAULT NULL COMMENT '客户简称|客户简称',",
  "  `CLIENT_NAME` varchar(200) CHARACTER SET utf8mb3 COLLATE utf8mb3_general_ci NULL DEFAULT NULL COMMENT '客户名称|客户名称',",
  "  `CH_CLIENT_NAME` varchar(200) CHARACTER SET utf8mb3 COLLATE utf8mb3_general_ci NULL DEFAULT NULL COMMENT '客户中文名称|客户中文名称',",
  "  `EN_CLIENT_NAME` varchar(200) CHARACTER SET utf8mb3 COLLATE utf8mb3_general_ci NULL DEFAULT NULL COMMENT '客户英文名称|客户英文名称',",
  "  `EN_CLIENT_SHORT` varchar(100) CHARACTER SET utf8mb3 COLLATE utf8mb3_general_ci NULL DEFAULT NULL COMMENT '客户英文简称|客户英文简称',",
  "  `CLIENT_TYPE` varchar(3) CHARACTER SET utf8mb3 COLLATE utf8mb3_general_ci NULL DEFAULT NULL COMMENT '客户类型|客户大类，目前一般分为个人，公司，金融机构和内部客户。取之于CIF_CLIENT_TYPE.CLIENT_TYPE',",
  "  `CATEGORY_TYPE` varchar(3) CHARACTER SET utf8mb3 COLLATE utf8mb3_general_ci NULL DEFAULT NULL COMMENT '客户细分类型|客户细分类型',",
  "  `CLIENT_TRAN_STATUS` char(1) CHARACTER SET utf8mb3 COLLATE utf8mb3_general_ci NULL DEFAULT NULL COMMENT '客户交易状态|客户交易状态|A-活动,C-已注销,D-休眠',",
  "  `CTRL_BRANCH` varchar(50) CHARACTER SET utf8mb3 COLLATE utf8mb3_general_ci NULL DEFAULT NULL COMMENT '控制分行|控制分行',",
  "  `ACCT_EXEC` varchar(30) CHARACTER SET utf8mb3 COLLATE utf8mb3_general_ci NULL DEFAULT NULL COMMENT '客户经理|客户经理',",
  "  `DEPARTMENT` varchar(10) CHARACTER SET utf8mb3 COLLATE utf8mb3_general_ci NULL DEFAULT NULL COMMENT '部门|部门',",
  "  `PROFIT_CENTER` varchar(20) CHARACTER SET utf8mb3 COLLATE utf8mb3_general_ci NULL DEFAULT NULL COMMENT '利润中心 |利润中心',",
  "  `SOURCE_TYPE` varchar(10) CHARACTER SET utf8mb3 COLLATE utf8mb3_general_ci NULL DEFAULT NULL COMMENT '渠道类型|渠道类型',",
  "  `CREATE_DATE` datetime(0) NULL DEFAULT NULL COMMENT '创建日期|创建日期',",
  "  `COUNTRY_LOC` varchar(3) CHARACTER SET utf8mb3 COLLATE utf8mb3_general_ci NULL DEFAULT NULL COMMENT '国籍|国籍',",
  "  `STATE` varchar(10) CHARACTER SET utf8mb3 COLLATE utf8mb3_general_ci NULL DEFAULT NULL COMMENT '省别代码|省、州',",
  "  `CLIENT_CITY` varchar(10) CHARACTER SET utf8mb3 COLLATE utf8mb3_general_ci NULL DEFAULT NULL COMMENT '城市代码|城市代码',",
  "  `DISTRICT` varchar(10) CHARACTER SET utf8mb3 COLLATE utf8mb3_general_ci NULL DEFAULT NULL COMMENT '区号|区号',",
  "  `POSTAL_CODE` varchar(10) CHARACTER SET utf8mb3 COLLATE utf8mb3_general_ci NULL DEFAULT NULL COMMENT '邮政编码|邮政编码',",
  "  `ADDRESS` varchar(500) CHARACTER SET utf8mb3 COLLATE utf8mb3_general_ci NULL DEFAULT NULL COMMENT '地址|地址',",
  "  `INFO_LACK` char(1) CHARACTER SET utf8mb3 COLLATE utf8mb3_general_ci NULL DEFAULT NULL COMMENT '资料不全标志|资料不全标志|Y-是,N-否',",
  "  `CLIENT_INDICATOR` char(1) CHARACTER SET utf8mb3 COLLATE utf8mb3_general_ci NOT NULL COMMENT '客户标识|客户标识|N-普通客户,S-银行员工客户,V-VIP客户,M-潜在客户',",
  "  `INTERNAL_IND_FLAG` char(1) CHARACTER SET utf8mb3 COLLATE utf8mb3_general_ci NULL DEFAULT NULL COMMENT '内部客户标志|是否为内部客户|Y-内部客户,N-非内部客户',",
  "  `TEMP_CLIENT` char(1) CHARACTER SET utf8mb3 COLLATE utf8mb3_general_ci NULL DEFAULT NULL COMMENT '临时客户标志|是否为临时客户|Y-临时客户,N-正式客户',",
  "  `INLAND_OFFSHORE` char(1) CHARACTER SET utf8mb3 COLLATE utf8mb3_general_ci NULL DEFAULT NULL COMMENT '境内境外标志|境内境外标志|I-境内,O-境外',",
  "  `BLACKLIST_IND_FLAG` char(1) CHARACTER SET utf8mb3 COLLATE utf8mb3_general_ci NULL DEFAULT NULL COMMENT '是否黑名单客户|是否黑名单客户|Y-是,N-否',",
  "  `CIF_VER_FLAG` char(1) CHARACTER SET utf8mb3 COLLATE utf8mb3_general_ci NULL DEFAULT NULL COMMENT '客户级核实标志|客户级核实标志（用于核实客户名下多个一类户）|Y-已核实,N-未核实',",
  "  `UNPROVIDE_ID_REASON` char(1) CHARACTER SET utf8mb3 COLLATE utf8mb3_general_ci NULL DEFAULT NULL COMMENT '未提供识别号原因|未提供识别号原因|1-居民国（地区）不发放纳税人识别号,2-账户持有人未能取得纳税人识别号',",
  "  `NAME_SUFFIX` varchar(20) CHARACTER SET utf8mb3 COLLATE utf8mb3_general_ci NULL DEFAULT NULL COMMENT '客户名后缀|客户名后缀',",
  "  `CLIENT_MNEMONIC` varchar(200) CHARACTER SET utf8mb3 COLLATE utf8mb3_general_ci NULL DEFAULT NULL COMMENT '助记名称|助记名称',",
  "  `CLIENT_ALIAS` varchar(200) CHARACTER SET utf8mb3 COLLATE utf8mb3_general_ci NULL DEFAULT NULL COMMENT '别名|别名',",
  "  `CLIENT_GRP` varchar(20) CHARACTER SET utf8mb3 COLLATE utf8mb3_general_ci NULL DEFAULT NULL COMMENT '客户组|客户组',",
  "  `COUNTRY_CITIZEN` varchar(3) CHARACTER SET utf8mb3 COLLATE utf8mb3_general_ci NULL DEFAULT NULL COMMENT '居住国家|居住国家',",
  "  `COUNTRY_RISK` varchar(3) CHARACTER SET utf8mb3 COLLATE utf8mb3_general_ci NULL DEFAULT NULL COMMENT '风险控制国家|风险控制国家',",
  "  `IS_FORMAL` char(1) CHARACTER SET utf8mb3 COLLATE utf8mb3_general_ci NULL DEFAULT NULL COMMENT '弱实名客户标志|是否弱实名客户|Y-是,N-否',",
  "  `CLIENT_STATUS` varchar(3) CHARACTER SET utf8mb3 COLLATE utf8mb3_general_ci NULL DEFAULT NULL COMMENT '客户状态|客户状态',",
  "  `CLIENT_STATUS_DESC` varchar(50) CHARACTER SET utf8mb3 COLLATE utf8mb3_general_ci NULL DEFAULT NULL COMMENT '客户状态描述|客户状态描述',",
  "  `CLASS_LEVEL_DATE` datetime(0) NULL DEFAULT NULL COMMENT '评级日期|评级日期',",
  "  `TAX_COUNTRY` varchar(3) CHARACTER SET utf8mb3 COLLATE utf8mb3_general_ci NULL DEFAULT NULL COMMENT '税收居民国|税收居民国',",
  "  `TAX_FLAG` char(1) CHARACTER SET utf8mb3 COLLATE utf8mb3_general_ci NULL DEFAULT NULL COMMENT '是否税信息|是否税信息|Y-是,N-否',",
  "  `TAXABLE_IND` char(1) CHARACTER SET utf8mb3 COLLATE utf8mb3_general_ci NULL DEFAULT NULL COMMENT '收税标志|是否收税|Y-收税,N-不收税',",
  "  `TAX_REMARK` varchar(500) CHARACTER SET utf8mb3 COLLATE utf8mb3_general_ci NULL DEFAULT NULL COMMENT '税收备注|税收备注',",
  "  `TAXPAYER_ID` varchar(30) CHARACTER SET utf8mb3 COLLATE utf8mb3_general_ci NULL DEFAULT NULL COMMENT '纳税人识别号|纳税人识别号',",
  "  `INVOICE_TYPE` char(1) CHARACTER SET utf8mb3 COLLATE utf8mb3_general_ci NULL DEFAULT NULL COMMENT '发票类型|发票类型|N-普通发票 ,S-专用发票 ,D-不开票',",
  "  `TAX_ORG_TYPE` char(1) CHARACTER SET utf8mb3 COLLATE utf8mb3_general_ci NULL DEFAULT NULL COMMENT '税收机构类型|税收机构类型|1-消极非金融机构,2-其他非金融机构',",
  "  `TAXPAYER_TYPE` char(1) CHARACTER SET utf8mb3 COLLATE utf8mb3_general_ci NULL DEFAULT NULL COMMENT '纳税人类型|纳税人类型|1-一般纳税人 ,2-小规模纳税人 ,3-个人 ,4-国有企业',",
  "  `CLIENT_SPREAD` decimal(15, 8) NULL DEFAULT NULL COMMENT '客户浮动|客户浮动',",
  "  `PAY_AGENT_FLAG` char(1) CHARACTER SET utf8mb3 COLLATE utf8mb3_general_ci NULL DEFAULT NULL COMMENT '代付标志|代付标志（Y/N）|Y-是,N-否',",
  "  `REC_AGENT_FLAG` char(1) CHARACTER SET utf8mb3 COLLATE utf8mb3_general_ci NULL DEFAULT NULL COMMENT '代收标志|代收标志（Y/N）|Y-是,N-否',",
  "  `WRN_FLAG` char(1) CHARACTER SET utf8mb3 COLLATE utf8mb3_general_ci NULL DEFAULT NULL COMMENT '贷款核销标志|贷款核销标志（Y/N）|Y-是,N-否',",
  "  `YDT_FLAG` char(1) CHARACTER SET utf8mb3 COLLATE utf8mb3_general_ci NULL DEFAULT NULL COMMENT '客户级易贷通标志|客户级易贷通标志（用于判断客户是否签约易贷通）|Y-是,N-否',",
  "  `PEP_IND_FLAG` char(1) CHARACTER SET utf8mb3 COLLATE utf8mb3_general_ci NULL DEFAULT NULL COMMENT 'PEP客户标志|此客户是否是PEP客户（政治敏感人物）|Y-是,N-否',",
  "  `INDUSTRY` varchar(20) CHARACTER SET utf8mb3 COLLATE utf8mb3_general_ci NULL DEFAULT NULL COMMENT '通用行业代码|通用行业代码',",
  "  `BUSINESS` varchar(10) CHARACTER SET utf8mb3 COLLATE utf8mb3_general_ci NULL DEFAULT NULL COMMENT '行业代码|行业代码',",
  "  `CLASS1` varchar(20) CHARACTER SET utf8mb3 COLLATE utf8mb3_general_ci NULL DEFAULT NULL COMMENT '分类1|客户分类1',",
  "  `CLASS2` varchar(20) CHARACTER SET utf8mb3 COLLATE utf8mb3_general_ci NULL DEFAULT NULL COMMENT '分类2|客户分类2',",
  "  `CLASS3` varchar(20) CHARACTER SET utf8mb3 COLLATE utf8mb3_general_ci NULL DEFAULT NULL COMMENT '分类3|客户分类3',",
  "  `CLASS4` varchar(20) CHARACTER SET utf8mb3 COLLATE utf8mb3_general_ci NULL DEFAULT NULL COMMENT '分类4|客户分类4',",
  "  `CLASS5` varchar(20) CHARACTER SET utf8mb3 COLLATE utf8mb3_general_ci NULL DEFAULT NULL COMMENT '分类5|客户分类5',",
  "  `CLASS_LEVEL` varchar(2) CHARACTER SET utf8mb3 COLLATE utf8mb3_general_ci NULL DEFAULT NULL COMMENT '综合评级|综合评级，用于客户等级划分',",
  "  `CR_RATING` varchar(3) CHARACTER SET utf8mb3 COLLATE utf8mb3_general_ci NULL DEFAULT NULL COMMENT '客户信用等级|客户等级 客户信用等级|001-1级,002-2级,003-3级,004-4级',",
  "  `RISK_WEIGHT` int(0) NULL DEFAULT NULL COMMENT '风险权重|风险等级',",
  "  `NARRATIVE` varchar(500) CHARACTER SET utf8mb3 COLLATE utf8mb3_general_ci NULL DEFAULT NULL COMMENT '摘要|开户时的账号用途，销户时的销户原因',",
  "  `PRINT_LANGUAGE` char(1) CHARACTER SET utf8mb3 COLLATE utf8mb3_general_ci NULL DEFAULT NULL COMMENT '打印语言|打印语言|C-中文,E-英文',",
  "  `SPOKEN_LANGUAGE` char(1) CHARACTER SET utf8mb3 COLLATE utf8mb3_general_ci NULL DEFAULT NULL COMMENT '交流语言|交流语言|E-英文,C-中文',",
  "  `WRITTEN_LANGUAGE` char(1) CHARACTER SET utf8mb3 COLLATE utf8mb3_general_ci NULL DEFAULT NULL COMMENT '书写语言|书写语言|E-英文,C-中文',",
  "  `CLOSED_DATE` datetime(0) NULL DEFAULT NULL COMMENT '关闭日期|关闭日期',",
  "  `CLOSE_REASON` varchar(200) CHARACTER SET utf8mb3 COLLATE utf8mb3_general_ci NULL DEFAULT NULL COMMENT '注销原因|注销原因:客户注销时，需要登记客户注销原因',",
  "  `OLD_CLIENT_NO` varchar(20) CHARACTER SET utf8mb3 COLLATE utf8mb3_general_ci NULL DEFAULT NULL COMMENT '原客户号|原客户号',",
  "  `CREATION_USER_ID` varchar(30) CHARACTER SET utf8mb3 COLLATE utf8mb3_general_ci NULL DEFAULT NULL COMMENT '创建柜员|创建柜员',",
  "  `TRAN_TIMESTAMP` varchar(26) CHARACTER SET utf8mb3 COLLATE utf8mb3_general_ci NOT NULL COMMENT '交易时间戳|交易时间戳',",
  "  `LAST_CHANGE_DATE` datetime(0) NULL DEFAULT NULL COMMENT '最后修改日期|最后修改日期',",
  "  `LAST_CHANGE_TIME` varchar(26) CHARACTER SET utf8mb3 COLLATE utf8mb3_general_ci NULL DEFAULT NULL COMMENT '上次修改时间|上次修改时间',",
  "  `LAST_CHANGE_USER_ID` varchar(30) CHARACTER SET utf8mb3 COLLATE utf8mb3_general_ci NULL DEFAULT NULL COMMENT '最后修改柜员|最后修改柜员',",
  "  `COMPANY` varchar(20) CHARACTER SET utf8mb3 COLLATE utf8mb3_general_ci NULL DEFAULT NULL COMMENT '法人|法人',",
  "  `CLIENT_POINT` bigint(0) NULL DEFAULT NULL COMMENT '客户积分|客户积分',",
  "  `CONTRIBUTE_DEGREE` int(0) NULL DEFAULT NULL COMMENT '贡献度|存贷模块可根据客户贡献度配置利率等信息',",
  "  `IS_JOINT_CUSTOMER` varchar(2) CHARACTER SET utf8mb3 COLLATE utf8mb3_general_ci NULL DEFAULT NULL COMMENT '是否联名客户|是否联名客户|Y-是，N-否',",
  "  `TAX_RESIDENT_FLAG` char(1) CHARACTER SET utf8mb3 COLLATE utf8mb3_general_ci NULL DEFAULT NULL COMMENT '税收居民标识|税收居民标识|1-中国税收居民,2-非居民,3-既是中国税收居民又是其他国家（地区）税收居民',",
  "  `ACCT_VERIFY_STATE` varchar(2) CHARACTER SET utf8mb3 COLLATE utf8mb3_general_ci NULL DEFAULT NULL COMMENT '客户核实状态|客户是否被核实',",
  "  `PASSWORD` varchar(200) CHARACTER SET utf8mb3 COLLATE utf8mb3_general_ci NULL DEFAULT NULL COMMENT '密码|客户密码',",
  "  `PASSWORD_STATUS` char(1) CHARACTER SET utf8mb3 COLLATE utf8mb3_general_ci NULL DEFAULT NULL COMMENT '密码状态|密码状态|A-正常 ,L-锁定 ',",
  "  `FAILURE_TIMES` int(0) NULL DEFAULT NULL COMMENT '累积失败次数|失败次数',",
  "  `CORP_FLAG` char(1) CHARACTER SET utf8mb3 COLLATE utf8mb3_general_ci NULL DEFAULT NULL COMMENT '是否小微企业|是否小微企业',",
  "  `CLIENT_GROUP` varchar(10) CHARACTER SET utf8mb3 COLLATE utf8mb3_general_ci NULL DEFAULT NULL COMMENT '客户群组\\r\\n|客户群组',",
  "  `BRANCH_INNER_FLAG` char(1) CHARACTER SET utf8mb3 COLLATE utf8mb3_general_ci NULL DEFAULT NULL COMMENT '是否机构内客户标志|是否机构内客户标志|Y-是,N-否',",
  "  `FIRST_NAME` varchar(200) CHARACTER SET utf8mb3 COLLATE utf8mb3_general_ci NULL DEFAULT NULL COMMENT '名',",
  "  `MID_NAME` varchar(200) CHARACTER SET utf8mb3 COLLATE utf8mb3_general_ci NULL DEFAULT NULL COMMENT '中间名',",
  "  `LAST_NAME` varchar(200) CHARACTER SET utf8mb3 COLLATE utf8mb3_general_ci NULL DEFAULT NULL COMMENT '姓',",
  "  `ANNUAL_STATUS` varchar(1) CHARACTER SET utf8mb3 COLLATE utf8mb3_general_ci NULL DEFAULT NULL COMMENT '年检状态|年检通过状态|Y-已年检,N-未年检',",
  "  `NEXT_ANNUAL_DATE` datetime(0) NULL DEFAULT NULL COMMENT '下一年检日期|下一年检日期',",
  "  `LAST_ANNUAL_DATE` datetime(0) NULL DEFAULT NULL COMMENT '下一年检日期|下一年检日期',",
  "  PRIMARY KEY (`CLIENT_NO`) USING BTREE",
  ") ENGINE = InnoDB CHARACTER SET = utf8mb3 COLLATE = utf8mb3_general_ci COMMENT = '客户信息表|客户信息表' ROW_FORMAT = Dynamic;",
  "",
  "-- ----------------------------",
  "-- Table structure for cif_client_block",
  "-- ----------------------------",
  "DROP TABLE IF EXISTS `cif_client_block`;",
  "CREATE TABLE `cif_client_block`  (",
  "  `SEQ_NO` varchar(50) CHARACTER SET utf8mb3 COLLATE utf8mb3_general_ci NOT NULL COMMENT '序号|序号',",
  "  `CLIENT_NO` varchar(20) CHARACTER SET utf8mb3 COLLATE utf8mb3_general_ci NOT NULL COMMENT '客户号|客户号',",
  "  `BLOCK_DATE` datetime(0) NOT NULL COMMENT '冻结日期|冻结日期',",
  "  `BLOCK_GROUP_FLAG` char(1) CHARACTER SET utf8mb3 COLLATE utf8mb3_general_ci NULL DEFAULT NULL COMMENT '是否群冻结|是否群冻结|Y-是 ,N-否',",
  "  `BLOCK_REASON` varchar(2) CHARACTER SET utf8mb3 COLLATE utf8mb3_general_ci NOT NULL COMMENT '冻结原因|冻结原因|01-睡眠户冻结,02-资料不全冻结,03-黑名单批量冻结,04-黑名单增量冻结,05-其它',",
  "  `BLOCK_USER_ID` varchar(30) CHARACTER SET utf8mb3 COLLATE utf8mb3_general_ci NOT NULL COMMENT '冻结柜员|冻结柜员',",
  "  `BLOCK_AUTH_USER_ID` varchar(30) CHARACTER SET utf8mb3 COLLATE utf8mb3_general_ci NULL DEFAULT NULL COMMENT '冻结授权柜员|冻结授权柜员',",
  "  `UNFROZEN_FLAG` char(1) CHARACTER SET utf8mb3 COLLATE utf8mb3_general_ci NOT NULL COMMENT '解冻标志|解冻标志|N-否,Y-是',",
  "  `UNBLOCK_DATE` datetime(0) NULL DEFAULT NULL COMMENT '解冻日期|解冻日期',",
  "  `UNBLOCK_USER_ID` varchar(30) CHARACTER SET utf8mb3 COLLATE utf8mb3_general_ci NULL DEFAULT NULL COMMENT '解冻柜员|解冻柜员',",
  "  `UNBLOCK_AUTH_USER_ID` varchar(30) CHARACTER SET utf8mb3 COLLATE utf8mb3_general_ci NULL DEFAULT NULL COMMENT '解冻授权柜员|解冻授权柜员',",
  "  `TRAN_TIMESTAMP` varchar(26) CHARACTER SET utf8mb3 COLLATE utf8mb3_general_ci NOT NULL COMMENT '交易时间戳|交易时间戳',",
  "  `COMPANY` varchar(20) CHARACTER SET utf8mb3 COLLATE utf8mb3_general_ci NULL DEFAULT NULL COMMENT '法人|法人',",
  "  PRIMARY KEY (`SEQ_NO`) USING BTREE",
  ") ENGINE = InnoDB CHARACTER SET = utf8mb3 COLLATE = utf8mb3_general_ci COMMENT = '客户冻结信息表|客户冻结信息表' ROW_FORMAT = Dynamic;",
  "",
  "-- ----------------------------",
  "-- Table structure for cif_client_document",
  "-- ----------------------------",
  "DROP TABLE IF EXISTS `cif_client_document`;",
  "CREATE TABLE `cif_client_document`  (",
  "  `CLIENT_NO` varchar(20) CHARACTER SET utf8mb3 COLLATE utf8mb3_general_ci NOT NULL COMMENT '客户号|客户号',",
  "  `DOCUMENT_TYPE` varchar(3) CHARACTER SET utf8mb3 COLLATE utf8mb3_general_ci NOT NULL COMMENT '证件类型|证件类型',",
  "  `DOCUMENT_ID` varchar(50) CHARACTER SET utf8mb3 COLLATE utf8mb3_general_ci NOT NULL COMMENT '证件号码|证件号码',",
  "  `ISS_COUNTRY` varchar(3) CHARACTER SET utf8mb3 COLLATE utf8mb3_general_ci NOT NULL COMMENT '发证国家|发证国家',",
  "  `ISS_STATE` varchar(10) CHARACTER SET utf8mb3 COLLATE utf8mb3_general_ci NULL DEFAULT NULL COMMENT '签发省、州|签发省、州',",
  "  `ISSUE_BRANCH` varchar(50) CHARACTER SET utf8mb3 COLLATE utf8mb3_general_ci NULL DEFAULT NULL COMMENT '签发机构|签发机构',",
  "  `ISS_PLACE` varchar(200) CHARACTER SET utf8mb3 COLLATE utf8mb3_general_ci NULL DEFAULT NULL COMMENT '签发地|签发地',",
  "  `ISS_CITY` varchar(10) CHARACTER SET utf8mb3 COLLATE utf8mb3_general_ci NULL DEFAULT NULL COMMENT '签发城市|签发城市',",
  "  `ISS_DATE` datetime(0) NULL DEFAULT NULL COMMENT '签发日期|签发日期',",
  "  `MATURITY_DATE` datetime(0) NULL DEFAULT NULL COMMENT '到期日期|到期日期',",
  "  `PREF_FLAG` char(1) CHARACTER SET utf8mb3 COLLATE utf8mb3_general_ci NULL DEFAULT NULL COMMENT '首选标志|是否为首选地址|Y-首选联系信息 ,N-不是首选联系信息',",
  "  `DIST_CODE` varchar(10) CHARACTER SET utf8mb3 COLLATE utf8mb3_general_ci NULL DEFAULT NULL COMMENT '地区代码|地区代码',",
  "  `DIST_CODE_DESC` varchar(50) CHARACTER SET utf8mb3 COLLATE utf8mb3_general_ci NULL DEFAULT NULL COMMENT '地区代码描述|地区代码描述',",
  "  `PASSPORT_TYPE` char(1) CHARACTER SET utf8mb3 COLLATE utf8mb3_general_ci NULL DEFAULT NULL COMMENT '护照类型|护照类型|P-因私护照,C-因公护照',",
  "  `NEW_DOCUMENT_ID` varchar(50) CHARACTER SET utf8mb3 COLLATE utf8mb3_general_ci NULL DEFAULT NULL COMMENT '变更后证件号码|新证件号码',",
  "  `OTHER_DOCUMENT` varchar(5) CHARACTER SET utf8mb3 COLLATE utf8mb3_general_ci NULL DEFAULT NULL COMMENT '其他证件名称|其他证件名称',",
  "  `INSPECT_DATE` datetime(0) NULL DEFAULT NULL COMMENT '上次核查日期|上次核查日期',",
  "  `LAST_CHANGE_DATE` datetime(0) NULL DEFAULT NULL COMMENT '最后修改日期|最后修改日期',",
  "  `LAST_CHANGE_USER_ID` varchar(30) CHARACTER SET utf8mb3 COLLATE utf8mb3_general_ci NULL DEFAULT NULL COMMENT '最后修改柜员|最后修改柜员',",
  "  `TRAN_TIMESTAMP` varchar(26) CHARACTER SET utf8mb3 COLLATE utf8mb3_general_ci NOT NULL COMMENT '交易时间戳|交易时间戳',",
  "  `COMPANY` varchar(20) CHARACTER SET utf8mb3 COLLATE utf8mb3_general_ci NULL DEFAULT NULL COMMENT '法人|法人',",
  "  `visa_type` varchar(100) CHARACTER SET utf8mb3 COLLATE utf8mb3_general_ci NULL DEFAULT NULL,",
  "  PRIMARY KEY (`CLIENT_NO`, `DOCUMENT_TYPE`, `DOCUMENT_ID`, `ISS_COUNTRY`) USING BTREE,",
  "  INDEX `IDX_CIF_CLIENT_DOCUMENT_1M`(`DOCUMENT_TYPE`, `ISS_COUNTRY`, `DOCUMENT_ID`) USING BTREE",
  ") ENGINE = InnoDB CHARACTER SET = utf8mb3 COLLATE = utf8mb3_general_ci COMMENT = '客户证件信息|客户证件信息' ROW_FORMAT = Dynamic;",
  "",
  "-- ----------------------------",
  "-- Table structure for cif_client_type",
  "-- ----------------------------",
  "DROP TABLE IF EXISTS `cif_client_type`;",
  "CREATE TABLE `cif_client_type`  (",
  "  `CLIENT_TYPE` varchar(3) CHARACTER SET utf8mb3 COLLATE utf8mb3_general_ci NOT NULL COMMENT '客户类型|客户大类，目前一般分为个人，公司，金融机构和内部客户。取之于CIF_CLIENT_TYPE.CLIENT_TYPE',",
  "  `CLIENT_TYPE_DESC` varchar(50) CHARACTER SET utf8mb3 COLLATE utf8mb3_general_ci NOT NULL COMMENT '客户类型描述|客户类型描述',",
  "  `CLIENT_CLASS` varchar(3) CHARACTER SET utf8mb3 COLLATE utf8mb3_general_ci NULL DEFAULT NULL COMMENT '客户类别|客户类别|PER-个人类，ERP-企业类，BRA-机构类',",
  "  `IS_INDIVIDUAL` char(1) CHARACTER SET utf8mb3 COLLATE utf8mb3_general_ci NOT NULL COMMENT '个体客户标志|是否个体客户|Y-是,N-否',",
  "  `TRAN_TIMESTAMP` varchar(26) CHARACTER SET utf8mb3 COLLATE utf8mb3_general_ci NOT NULL COMMENT '交易时间戳|交易时间戳',",
  "  `COMPANY` varchar(20) CHARACTER SET utf8mb3 COLLATE utf8mb3_general_ci NULL DEFAULT NULL COMMENT '法人|法人',",
  "  PRIMARY KEY (`CLIENT_TYPE`) USING BTREE",
  ") ENGINE = InnoDB CHARACTER SET = utf8mb3 COLLATE = utf8mb3_general_ci COMMENT = '客户类型-大类表|客户类型-大类表' ROW_FORMAT = Dynamic;",
  "",
  "-- ----------------------------",
  "-- Table structure for fm_branch_ccy",
  "-- ----------------------------",
  "DROP TABLE IF EXISTS `fm_branch_ccy`;",
  "CREATE TABLE `fm_branch_ccy`  (",
  "  `BRANCH` varchar(50) CHARACTER SET utf8mb3 COLLATE utf8mb3_general_ci NOT NULL COMMENT '所属机构号|机构代码',",
  ""]

def sample : String := "\n".intercalate sampleLines

end TableAtlas.Dump
